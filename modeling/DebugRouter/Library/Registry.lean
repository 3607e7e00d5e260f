import DebugRouter.Library.OrderedMap

/-!
Registries that announce what enters and leaves them. A state has a log of events and a
set of present keys; `Announces` says that the log's growth tells every change of
presence, in order, and nothing else.
-/
namespace DebugRouter.Library

open List

/-- Follow one key through its announcements: `true` enters, `false` leaves. An
announcement of what already holds is refused, so success is strict alternation. -/
def replay : Bool → List Bool → Option Bool
  | present, [] => some present
  | present, change :: rest => if change = present then none else replay change rest

theorem replay_append (present : Bool) (pre back : List Bool) :
    replay present (pre ++ back) = (replay present pre).bind (replay · back) := by
  induction pre generalizing present with
  | nil => rfl
  | cons change rest ih =>
    simp only [cons_append, replay]
    split
    · rfl
    · exact ih change

theorem replay_of_same {kind present after : Bool} {changes : List Bool}
    (hs : ∀ change ∈ changes, change = kind)
    (hf : replay present changes = some after) :
    changes = if present = after then [] else [after] := by
  cases changes with
  | nil =>
    cases hf
    simp
  | cons first rest =>
    obtain ⟨rfl, ho⟩ := forall_mem_cons.mp hs
    unfold replay at hf
    split at hf
    · cases hf
    next hd =>
      cases rest with
      | nil =>
        cases hf
        rw [if_neg fun h => hd h.symm]
      | cons second rest =>
        obtain ⟨rfl, -⟩ := forall_mem_cons.mp ho
        simp [replay] at hf

def dropStale {S κ : Type*} [DecidableEq κ] (remove : S → κ → S) (active : List κ) (s : S)
    (key : κ) : S :=
  if key ∈ active then s else remove s key

section Announcing
variable {S E K : Type*} [DecidableEq K] (log : S → List E) (present : S → K → Bool)
variable (change : E → K × Bool)

def changesOf (key : K) (es : List E) : List Bool :=
  es.filterMap fun e => if (change e).1 = key then some (change e).2 else none

def Announces (allowed : E → Prop) (s t : S) : Prop :=
  ∃ es, log t = log s ++ es ∧ (∀ e ∈ es, allowed e) ∧
    ∀ key, replay (present s key) (changesOf change key es) = some (present t key)

variable {log present change} {allowed : E → Prop}

theorem changesOf_append (key : K) (pre back : List E) :
    changesOf change key (pre ++ back) = changesOf change key pre ++ changesOf change key back :=
  filterMap_append

variable {s t : S} {κ : Type*} {remove : S → κ → S} {active : List κ}

theorem announces_nothing (hq : log t = log s) (hs : ∀ key, present t key = present s key) :
    Announces log present change allowed s t :=
  ⟨[], by simp [hq], by simp, by simp [changesOf, replay, hs]⟩

theorem announces_flips (es : List E) (hg : log t = log s ++ es)
    (hk : ∀ e ∈ es, allowed e) (hd : (es.map fun e => (change e).1).Nodup)
    (hf : ∀ e ∈ es, present s (change e).1 = !(change e).2 ∧ present t (change e).1 = (change e).2)
    (ho : ∀ key, key ∉ es.map (fun e => (change e).1) → present t key = present s key) :
    Announces log present change allowed s t := by
  refine ⟨es, hg, hk, ?_⟩
  intro key
  have hs : ∀ fs : List E, key ∉ fs.map (fun e => (change e).1) →
      changesOf change key fs = [] := by
    intro fs hab
    refine filterMap_eq_nil_iff.mpr ?_
    intro e mem
    rw [if_neg]
    rintro rfl
    exact hab (mem_map.mpr ⟨e, mem, rfl⟩)
  by_cases ha : key ∈ es.map fun e => (change e).1
  · obtain ⟨e, mem, rfl⟩ := mem_map.mp ha
    obtain ⟨pre, back, rfl⟩ := append_of_mem mem
    rw [map_append, map_cons, nodup_middle, nodup_cons] at hd
    have hq := hd.1
    rw [mem_append, not_or] at hq
    obtain ⟨hb, haf⟩ := hf e mem
    have hh : changesOf change (change e).1 (e :: back) =
        (change e).2 :: changesOf change (change e).1 back := by
      simp [changesOf]
    have told : changesOf change (change e).1 (pre ++ e :: back) = [(change e).2] := by
      rw [changesOf_append, hs pre hq.1, hh, hs back hq.2]
      rfl
    rw [told, hb, haf]
    cases (change e).2 <;> rfl
  · rw [hs es ha, ho key ha]
    rfl

theorem announces_trans {u : S} (first : Announces log present change allowed s t)
    (hs : Announces log present change allowed t u) :
    Announces log present change allowed s u := by
  obtain ⟨es, hg, hk, hf⟩ := first
  obtain ⟨fs, hg', hk', hf'⟩ := hs
  refine ⟨es ++ fs, by simp [hg', hg], ?_, ?_⟩
  · intro e mem
    rcases mem_append.mp mem with mem | mem
    · exact hk e mem
    · exact hk' e mem
  · intro key
    rw [changesOf_append, replay_append, hf key, Option.bind_some, hf' key]

theorem announces_mono {wider : E → Prop} (hw : ∀ e, allowed e → wider e)
    (hh : Announces log present change allowed s t) :
    Announces log present change wider s t := by
  obtain ⟨es, hg, hk, hf⟩ := hh
  exact ⟨es, hg, fun e mem => hw e (hk e mem), hf⟩

theorem announces_foldl {X : Type*} {f : S → X → S}
    (h : ∀ s x, Announces log present change allowed s (f s x)) (s : S) (xs : List X) :
    Announces log present change allowed s (xs.foldl f s) := by
  induction xs generalizing s with
  | nil => exact announces_nothing rfl (fun _ => rfl)
  | cons x rest ih => exact announces_trans (h s x) (ih (f s x))

theorem announces_dropStale [DecidableEq κ]
    (h : ∀ s key, Announces log present change allowed s (remove s key)) (s : S) (key : κ) :
    Announces log present change allowed s (dropStale remove active s key) := by
  unfold dropStale
  split
  · exact announces_nothing rfl (fun _ => rfl)
  · exact h s key

theorem announces_dropStale_keys {ν : Type*} [DecidableEq κ] (π : S → OrderedMap κ ν)
    (he : ∀ s key, (π s).has key = true → Announces log present change allowed s (remove s key))
    (hdr : ∀ s key, π (remove s key) = (π s).delete key) (s : S) {keys : List κ} (hd : keys.Nodup)
    (all : ∀ key ∈ keys, (π s).has key = true) :
    Announces log present change allowed s (keys.foldl (dropStale remove active) s) := by
  induction keys generalizing s with
  | nil => exact announces_nothing rfl (fun _ => rfl)
  | cons key rest ih =>
    obtain ⟨hf, hd⟩ := nodup_cons.mp hd
    have there := all key (by simp)
    have ho : ∀ k ∈ rest, (π s).has k = true := fun k mem => all k (by simp [mem])
    rw [foldl_cons]
    unfold dropStale
    split
    · exact ih s hd ho
    · refine announces_trans (he s key there) (ih (remove s key) hd ?_)
      intro k mem
      have ha : key ≠ k := by
        rintro rfl
        exact hf mem
      simp [hdr, OrderedMap.has_delete, ha, ho k mem]

end Announcing

/- Folds over one of the maps a state holds. -/

theorem foldl_same {S X Y : Type*} {f : S → X → S} (part : S → Y)
    (h : ∀ s x, part (f s x) = part s) (s : S) (xs : List X) :
    part (xs.foldl f s) = part s := by
  induction xs generalizing s with
  | nil => rfl
  | cons x rest ih => rw [foldl_cons, ih, h]

theorem foldl_fixed {S X : Type*} {f : S → X → S} {s : S} {xs : List X}
    (h : ∀ x ∈ xs, f s x = s) : xs.foldl f s = s := by
  induction xs with
  | nil => rfl
  | cons x rest ih =>
    rw [foldl_cons, h x (by simp)]
    exact ih fun y mem => h y (by simp [mem])

section Folds
variable {S X κ ν : Type*} [DecidableEq κ] (π : S → OrderedMap κ ν) {f : S → X → S}
variable {s : S} {k : κ} {v : ν}

variable {key : X → κ}

theorem foldl_keeps (he : ∀ s x, (π s).Upserts (key x) (π (f s x))) (hf : (π s).get? k = some v)
    (xs : List X) :
    (π (xs.foldl f s)).get? k = some v := by
  induction xs generalizing s with
  | nil => exact hf
  | cons x rest ih => exact ih ((he s x).keeps hf)

theorem foldl_inserts (h : ∀ s x, (π s).Upserts (key x) (π (f s x))) (s : S) (xs : List X) (k : κ) :
    (π (xs.foldl f s)).has k = true ↔ (π s).has k = true ∨ ∃ x ∈ xs, key x = k := by
  induction xs generalizing s with
  | nil => simp
  | cons x rest ih =>
    rw [foldl_cons, ih, (h s x).has]
    simp [or_assoc]

section DropStale
variable {remove : S → κ → S} {active : List κ}

theorem foldl_dropStale (he : ∀ s key, π (remove s key) = (π s).delete key) (s : S) (keys : List κ)
    (k : κ) :
    (π (keys.foldl (dropStale remove active) s)).has k = true ↔
      (π s).has k = true ∧ (k ∈ keys → k ∈ active) := by
  induction keys generalizing s with
  | nil => simp
  | cons key rest ih =>
    rw [foldl_cons, ih]
    unfold dropStale
    split
    next hi =>
      by_cases hs : k = key
      · subst hs
        simp [hi]
      · simp [hs]
    next ho =>
      rw [he, OrderedMap.has_delete]
      by_cases hs : k = key
      · subst hs
        simp [ho]
      · have apart : key ≠ k := fun h => hs h.symm
        simp [hs, apart]

theorem foldl_dropStale_keys (h : ∀ s key, π (remove s key) = (π s).delete key) (s : S) (k : κ) :
    (π ((π s).keys.foldl (dropStale remove active) s)).has k = true ↔
      (π s).has k = true ∧ k ∈ active := by
  rw [foldl_dropStale π h, OrderedMap.mem_keys_iff_has]
  tauto

theorem foldl_dropStale_shrinks (he : ∀ s key, π (remove s key) = (π s).delete key) {keys : List κ}
    (hf : (π (keys.foldl (dropStale remove active) s)).get? k = some v) : (π s).get? k = some v := by
  induction keys generalizing s with
  | nil => exact hf
  | cons key rest ih =>
    have hr := ih hf
    unfold dropStale at hr
    split at hr
    · exact hr
    · exact OrderedMap.get?_of_delete (he s key ▸ hr)

theorem dropStale_same {Y : Type*} (remove : S → κ → S) (active : List κ) (part : S → Y)
    (h : ∀ s key, part (remove s key) = part s) (s : S) (key : κ) :
    part (dropStale remove active s key) = part s := by
  unfold dropStale
  split
  · rfl
  · exact h s key

end DropStale

end Folds

end DebugRouter.Library
