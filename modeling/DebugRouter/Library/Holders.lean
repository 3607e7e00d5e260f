import Mathlib.Data.List.Nodup
import Mathlib.Data.List.Basic

/-!
Resources that live as long as somebody holds them. A resource is made for its first holder and
given up when the last one lets go; the table keeps them in the order in which they were made.
-/
namespace DebugRouter.Library

open List

structure Held (κ α β : Type*) where
  key : κ
  holders : List α
  resource : β

section Holders
variable {κ α β : Type*} [DecidableEq κ] [DecidableEq α]

def insertLast (a : α) (l : List α) : List α := if a ∈ l then l else l ++ [a]

@[simp] theorem mem_insertLast {a b : α} {l : List α} : b ∈ insertLast a l ↔ b ∈ l ∨ b = a := by
  unfold insertLast
  split
  next hi =>
    constructor
    · exact .inl
    · rintro (hh | rfl) <;> assumption
  · simp

def hold (key : κ) (a : α) (resource : β) : List (Held κ α β) → List (Held κ α β) × Bool
  | [] => ([⟨key, [a], resource⟩], true)
  | e :: rest =>
    if e.key = key then ({ e with holders := insertLast a e.holders } :: rest, false)
    else (e :: (hold key a resource rest).1, (hold key a resource rest).2)

def Held.without (a : α) (e : Held κ α β) : Held κ α β :=
  { e with holders := e.holders.filter (· ≠ a) }

def Held.last (a : α) (e : Held κ α β) : Bool :=
  decide (a ∈ e.holders) && (e.without a).holders.isEmpty

/-- A holder leaves: what is kept, and the resources that nobody holds any more. -/
def letGo (a : α) (entries : List (Held κ α β)) : List (Held κ α β) × List (Held κ α β) :=
  ((entries.filter fun e => !e.last a).map (Held.without a), entries.filter (Held.last a))

/-- Nothing is there twice, and nothing is there without a holder. -/
structure WellHeld (entries : List (Held κ α β)) : Prop where
  distinct : (entries.map Held.key).Nodup
  held : ∀ e ∈ entries, e.holders ≠ []

def Holds (entries : List (Held κ α β)) (a : α) (key : κ) : Prop :=
  ∃ e ∈ entries, e.key = key ∧ a ∈ e.holders

variable {es : List (Held κ α β)} {key k : κ} {a b : α} {resource : β}

omit [DecidableEq κ] [DecidableEq α] in
theorem holds_cons {e : Held κ α β} {xs : List (Held κ α β)} :
    Holds (e :: xs) a key ↔ (e.key = key ∧ a ∈ e.holders) ∨ Holds xs a key := by
  simp [Holds]

omit [DecidableEq κ] [DecidableEq α] in
theorem WellHeld.mem_keys_iff (h : WellHeld es) : key ∈ es.map Held.key ↔ ∃ a, Holds es a key := by
  constructor
  · intro hi
    obtain ⟨e, hh, rfl⟩ := mem_map.mp hi
    obtain ⟨a, hho⟩ := exists_mem_of_ne_nil _ (h.held e hh)
    exact ⟨a, e, hh, rfl, hho⟩
  · rintro ⟨a, e, hh, rfl, -⟩
    exact mem_map_of_mem hh

/- Holding -/

theorem keys_hold :
    (hold key a resource es).1.map Held.key =
      if key ∈ es.map Held.key then es.map Held.key else es.map Held.key ++ [key] := by
  induction es with
  | nil => simp [hold]
  | cons e xs ih =>
    by_cases hh : e.key = key
    · simp [hold, hh]
    · have apart : key ≠ e.key := fun h => hh h.symm
      simp only [hold, hh, if_false, map_cons, ih, mem_cons, apart, false_or]
      split <;> simp

theorem hold_new : (hold key a resource es).2 = true ↔ key ∉ es.map Held.key := by
  induction es with
  | nil => simp [hold]
  | cons e xs ih =>
    by_cases hh : e.key = key
    · simp [hold, hh]
    · have apart : key ≠ e.key := fun h => hh h.symm
      simp [hold, hh, ih, apart]

theorem holds_hold : Holds (hold key a resource es).1 b k ↔ Holds es b k ∨ (k = key ∧ b = a) := by
  induction es with
  | nil => simp [hold, Holds, eq_comm]
  | cons e xs ih =>
    by_cases hh : e.key = key
    · simp only [hold, hh, if_true, holds_cons, mem_insertLast]
      constructor
      · rintro (⟨rfl, old | rfl⟩ | later)
        · exact .inl (.inl ⟨rfl, old⟩)
        · exact .inr ⟨rfl, rfl⟩
        · exact .inl (.inr later)
      · rintro ((⟨rfl, old⟩ | later) | ⟨rfl, rfl⟩)
        · exact .inl ⟨rfl, .inl old⟩
        · exact .inr later
        · exact .inl ⟨rfl, .inr rfl⟩
    · simp only [hold, hh, if_false, holds_cons, ih, or_assoc]

theorem WellHeld.hold (h : WellHeld es) : WellHeld (hold key a resource es).1 := by
  constructor
  · rw [keys_hold]
    split
    · exact h.distinct
    next hf =>
      refine nodup_append.mpr ⟨h.distinct, nodup_singleton key, ?_⟩
      rintro k hi k' new rfl
      cases mem_singleton.mp new
      exact hf hi
  · have hh := h.held
    clear h
    induction es with
    | nil => simp [Library.hold]
    | cons e xs ih =>
      obtain ⟨x, ho⟩ := forall_mem_cons.mp hh
      unfold Library.hold
      split
      · refine forall_mem_cons.mpr ⟨?_, ho⟩
        exact ne_nil_of_mem (mem_insertLast.mpr (.inr rfl))
      · exact forall_mem_cons.mpr ⟨x, ih ho⟩

variable {P : κ → β → Prop}

theorem resources_hold (all : ∀ e ∈ es, P e.key e.resource) (new : P key resource) :
    ∀ e ∈ (hold key a resource es).1, P e.key e.resource := by
  induction es with
  | nil => simpa [hold] using new
  | cons e xs ih =>
    obtain ⟨x, ho⟩ := forall_mem_cons.mp all
    unfold hold
    split
    · exact forall_mem_cons.mpr ⟨x, ho⟩
    · exact forall_mem_cons.mpr ⟨x, ih ho⟩

/- Letting go -/

omit [DecidableEq κ] in
theorem keys_letGo : (letGo a es).1.map Held.key = (es.filter fun e => !e.last a).map Held.key := by
  simp [letGo, Held.without, Function.comp_def]

omit [DecidableEq κ] in
theorem holds_letGo : Holds (letGo a es).1 b k ↔ Holds es b k ∧ b ≠ a := by
  constructor
  · rintro ⟨e, hi, rfl, hh⟩
    obtain ⟨old, hk, rfl⟩ := mem_map.mp hi
    obtain ⟨hhe, ha⟩ := mem_filter.mp hh
    exact ⟨⟨old, (mem_filter.mp hk).1, rfl, hhe⟩, by simpa using ha⟩
  · rintro ⟨⟨e, hi, rfl, hh⟩, ha⟩
    have stays : b ∈ (e.without a).holders := mem_filter.mpr ⟨hh, by simpa using ha⟩
    have several : e.last a = false := by
      simp only [Held.last, Bool.and_eq_false_iff, isEmpty_eq_false_iff]
      exact .inr (ne_nil_of_mem stays)
    exact ⟨e.without a, mem_map_of_mem (mem_filter.mpr ⟨hi, by simp [several]⟩), rfl, stays⟩

omit [DecidableEq κ] in
theorem WellHeld.letGo (h : WellHeld es) : WellHeld (letGo a es).1 := by
  constructor
  · rw [keys_letGo]
    exact h.distinct.sublist (filter_sublist.map _)
  · intro e hi
    obtain ⟨old, hk, rfl⟩ := mem_map.mp hi
    obtain ⟨hhe, hse⟩ := mem_filter.mp hk
    by_cases hh : a ∈ old.holders
    · simpa [Held.last, hh] using hse
    · have same : (old.without a).holders = old.holders := by
        refine filter_eq_self.mpr ?_
        intro b hho
        have apart : b ≠ a := fun same => hh (same ▸ hho)
        simpa using apart
      rw [same]
      exact h.held old hhe

theorem WellHeld.keys_letGo (h : WellHeld es) :
    (Library.letGo a es).1.map Held.key =
      (es.map Held.key).filter (· ∉ (Library.letGo a es).2.map Held.key) := by
  rw [Library.keys_letGo, filter_map]
  refine congrArg _ (filter_congr ?_)
  intro e hh
  have last_iff : e.last a = true ↔ e.key ∈ (Library.letGo a es).2.map Held.key := by
    constructor
    · exact fun hl => mem_map_of_mem (mem_filter.mpr ⟨hh, hl⟩)
    · intro hg
      obtain ⟨e', hg, hs⟩ := mem_map.mp hg
      obtain ⟨hh', hl⟩ := mem_filter.mp hg
      cases inj_on_of_nodup_map h.distinct hh' hh hs
      exact hl
  simp only [Function.comp_apply, ← last_iff]
  cases e.last a <;> rfl

omit [DecidableEq κ] in
theorem resources_letGo (all : ∀ e ∈ es, P e.key e.resource) :
    ∀ e ∈ (letGo a es).1, P e.key e.resource := by
  intro e hi
  obtain ⟨old, hk, rfl⟩ := mem_map.mp hi
  exact all old (mem_filter.mp hk).1

end Holders

end DebugRouter.Library
