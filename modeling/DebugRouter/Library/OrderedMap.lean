import Mathlib.Data.List.Basic
import Mathlib.Data.List.Nodup

/-!
Insertion-ordered maps. `set` overwrites in place or appends, as ECMAScript's `Map`
and object properties do, so iteration order is part of the value. Key uniqueness
is a field: a map with two entries for one key cannot be built.
-/
namespace DebugRouter.Library

open List

section Entries
variable {κ : Type*} {ν : Type*} [DecidableEq κ]

def setEntry (key : κ) (value : ν) : List (κ × ν) → List (κ × ν)
  | [] => [(key, value)]
  | (k, v) :: rest => if k = key then (k, value) :: rest else (k, v) :: setEntry key value rest

theorem lookup_cons_ite (k k' : κ) (v : ν) (xs : List (κ × ν)) :
    ((k', v) :: xs).lookup k = if k = k' then some v else xs.lookup k := by
  by_cases hs : k = k'
  · simp [hs]
  · have hd : (k == k') = false := by simpa using hs
    simp [lookup_cons, hd, hs]

theorem lookup_setEntry (key : κ) (value : ν) (entries : List (κ × ν)) (k : κ) :
    (setEntry key value entries).lookup k = if k = key then some value else entries.lookup k := by
  induction entries with
  | nil => simp [setEntry, lookup_cons_ite]
  | cons entry xs ih =>
    obtain ⟨k', v'⟩ := entry
    by_cases hh : k' = key
    · subst hh
      by_cases hs : k = k' <;> simp [setEntry, lookup_cons_ite, hs]
    · by_cases hs : k = k'
      · subst hs
        simp [setEntry, hh]
      · simp [setEntry, hh, lookup_cons_ite, hs, ih]

theorem keys_setEntry (key : κ) (value : ν) (entries : List (κ × ν)) :
    (setEntry key value entries).map Prod.fst =
      if key ∈ entries.map Prod.fst then entries.map Prod.fst
      else entries.map Prod.fst ++ [key] := by
  induction entries with
  | nil => simp [setEntry]
  | cons entry xs ih =>
    obtain ⟨k', v'⟩ := entry
    by_cases hh : k' = key
    · simp [setEntry, hh]
    · have apart : key ≠ k' := fun h => hh h.symm
      simp only [setEntry, hh, if_false, map_cons, ih, mem_cons, apart, false_or]
      split <;> simp

variable {entries : List (κ × ν)} {k : κ} {v : ν}

theorem setEntry_of_fresh {key : κ} (h : key ∉ entries.map Prod.fst)
    (value : ν) : setEntry key value entries = entries ++ [(key, value)] := by
  induction entries with
  | nil => rfl
  | cons entry xs ih =>
    rw [map_cons, mem_cons, not_or] at h
    have apart : entry.1 ≠ key := fun hs => h.1 hs.symm
    simp [setEntry, apart, ih h.2]

theorem mem_of_lookup (h : entries.lookup k = some v) : (k, v) ∈ entries := by
  obtain ⟨pre, back, rfl, -⟩ := lookup_eq_some_iff.mp h
  simp

theorem lookup_of_mem (hn : (entries.map Prod.fst).Nodup) (mem : (k, v) ∈ entries) :
    entries.lookup k = some v := by
  induction entries with
  | nil => cases mem
  | cons entry xs ih =>
    obtain ⟨k', v'⟩ := entry
    rw [map_cons, nodup_cons] at hn
    rcases mem_cons.mp mem with hs | later
    · cases hs
      simp
    · have apart : k ≠ k' := by
        rintro rfl
        exact hn.1 (mem_map.mpr ⟨(k, v), later, rfl⟩)
      rw [lookup_cons_ite, if_neg apart]
      exact ih hn.2 later

theorem filter_key (hn : (entries.map Prod.fst).Nodup)
    (mem : (k, v) ∈ entries) : entries.filter (fun e => e.1 = k) = [(k, v)] := by
  induction entries with
  | nil => cases mem
  | cons entry xs ih =>
    rw [map_cons, nodup_cons] at hn
    rcases mem_cons.mp mem with hs | later
    · subst hs
      have none : xs.filter (fun e => e.1 = k) = [] := by
        rw [filter_eq_nil_iff]
        intro e hi hs
        exact hn.1 (mem_map.mpr ⟨e, hi, by simpa using hs⟩)
      simp [none]
    · have apart : entry.1 ≠ k := by
        intro hs
        exact hn.1 (mem_map.mpr ⟨(k, v), later, hs.symm⟩)
      simp [apart, ih hn.2 later]

end Entries

structure OrderedMap (κ : Type*) (ν : Type*) where
  entries : List (κ × ν)
  nodup : (entries.map Prod.fst).Nodup

namespace OrderedMap
variable {κ : Type*} {ν : Type*}

@[ext] theorem ext_entries {m n : OrderedMap κ ν} (h : m.entries = n.entries) : m = n := by
  cases m
  cases n
  cases h
  rfl

instance [DecidableEq κ] [DecidableEq ν] : DecidableEq (OrderedMap κ ν) := fun m n =>
  decidable_of_iff (m.entries = n.entries) ⟨ext_entries, congrArg _⟩

def empty : OrderedMap κ ν := ⟨[], nodup_nil⟩

def keys (m : OrderedMap κ ν) : List κ := m.entries.map Prod.fst

def values (m : OrderedMap κ ν) : List ν := m.entries.map Prod.snd

def filter (p : κ → ν → Bool) (m : OrderedMap κ ν) : OrderedMap κ ν where
  entries := m.entries.filter fun e => p e.1 e.2
  nodup := m.nodup.sublist (filter_sublist.map _)

def mapEntries {μ : Type*} (f : κ → ν → μ) (m : OrderedMap κ ν) : OrderedMap κ μ where
  entries := m.entries.map fun e => (e.1, f e.1 e.2)
  nodup := by simpa [Function.comp_def] using m.nodup

variable [DecidableEq κ]

def get? (m : OrderedMap κ ν) (key : κ) : Option ν := m.entries.lookup key

def has (m : OrderedMap κ ν) (key : κ) : Bool := (m.get? key).isSome

def set (m : OrderedMap κ ν) (key : κ) (value : ν) : OrderedMap κ ν where
  entries := setEntry key value m.entries
  nodup := by
    rw [keys_setEntry]
    split
    · exact m.nodup
    next fresh =>
      refine nodup_append.mpr ⟨m.nodup, by simp, ?_⟩
      rintro a inside b same rfl
      exact fresh (mem_singleton.mp same ▸ inside)

def delete (m : OrderedMap κ ν) (key : κ) : OrderedMap κ ν := m.filter fun k _ => k ≠ key

variable {m : OrderedMap κ ν} {k key : κ} {v value : ν}

theorem mem_entries_iff : (k, v) ∈ m.entries ↔ m.get? k = some v :=
  ⟨lookup_of_mem m.nodup, mem_of_lookup⟩

theorem mem_keys_iff : k ∈ m.keys ↔ ∃ v, m.get? k = some v := by simp [keys, mem_entries_iff]

theorem mem_values_iff : v ∈ m.values ↔ ∃ k, m.get? k = some v := by simp [values, mem_entries_iff]

theorem has_iff : m.has k = true ↔ ∃ v, m.get? k = some v := by simp [has, Option.isSome_iff_exists]

@[simp] theorem get?_empty : (empty : OrderedMap κ ν).get? k = none := rfl

@[simp] theorem get?_set : (m.set key value).get? k = if k = key then some value else m.get? k :=
  lookup_setEntry key value m.entries k

theorem get?_filter_eq_some {p : κ → ν → Bool} :
    (m.filter p).get? k = some v ↔ m.get? k = some v ∧ p k v = true := by
  rw [← mem_entries_iff, ← mem_entries_iff]
  simp [filter]

theorem get?_filter {p : κ → ν → Bool} : (m.filter p).get? k = (m.get? k).filter (p k) := by
  ext v
  rw [get?_filter_eq_some, Option.filter_eq_some_iff]

@[simp] theorem get?_delete : (m.delete key).get? k = if k = key then none else m.get? k := by
  rw [delete, get?_filter]
  cases m.get? k <;> simp [Option.filter]

variable {μ : Type*} {P : κ → ν → Prop}

@[simp] theorem get?_mapEntries (f : κ → ν → μ) : (m.mapEntries f).get? k = (m.get? k).map (f k) := by
  cases hf : m.get? k with
  | some v =>
    rw [← mem_entries_iff] at hf
    exact mem_entries_iff.mp (mem_map.mpr ⟨(k, v), hf, rfl⟩)
  | none =>
    cases hi : (m.mapEntries f).get? k with
    | none => rfl
    | some w =>
      rw [← mem_entries_iff] at hi
      obtain ⟨⟨k', v'⟩, mem, hs⟩ := mem_map.mp hi
      cases hs
      rw [mem_entries_iff.mp mem] at hf
      cases hf

theorem delete_of_missing (h : m.get? key = none) : m.delete key = m := by
  ext1
  refine filter_eq_self.mpr fun e hi => decide_eq_true ?_
  rintro rfl
  rw [mem_entries_iff.mp hi] at h
  cases h

theorem filter_setEntry (p : κ → Bool) (h : p key = false) (entries : List (κ × ν)) :
    (setEntry key value entries).filter (fun e => p e.1) = entries.filter fun e => p e.1 := by
  induction entries with
  | nil => simp [setEntry, h]
  | cons entry xs ih =>
    obtain ⟨k, v⟩ := entry
    by_cases hh : k = key
    · simp [setEntry, hh, h]
    · simp [setEntry, hh, filter_cons, ih]

theorem delete_set : (m.set key value).delete key = m.delete key := by
  ext1
  exact filter_setEntry (fun k => decide (k ≠ key)) (by simp) m.entries

theorem get?_of_delete (h : (m.delete key).get? k = some v) : m.get? k = some v :=
  (get?_filter_eq_some.mp h).1

@[simp] theorem has_mapEntries (f : κ → ν → μ) : (m.mapEntries f).has k = m.has k := by
  simp [has]

theorem has_set : (m.set key value).has k = (m.has k || decide (key = k)) := by
  unfold has
  rw [get?_set]
  by_cases hs : k = key
  · simp [hs]
  · have apart : key ≠ k := fun h => hs h.symm
    simp [hs, apart]

theorem has_delete : (m.delete key).has k = (m.has k && !decide (key = k)) := by
  unfold has
  rw [get?_delete]
  by_cases hs : k = key
  · simp [hs]
  · have apart : key ≠ k := fun h => hs h.symm
    simp [hs, apart]

theorem has_eq_false : m.has k = false ↔ m.get? k = none := by simp [has]

/-- The key is entered unless it is there. -/
inductive Upserts (m : OrderedMap κ ν) (key : κ) : OrderedMap κ ν → Prop
  | kept (h : m.has key = true) : Upserts m key m
  | added {value : ν} (h : m.has key = false) : Upserts m key (m.set key value)

theorem Upserts.has {n : OrderedMap κ ν} (h : m.Upserts key n) (k : κ) :
    n.has k = (m.has k || decide (key = k)) := by
  cases h with
  | kept ht =>
    by_cases hs : key = k
    · simp [← hs, ht]
    · simp [hs]
  | added => exact has_set

theorem Upserts.keeps {n : OrderedMap κ ν} (h : m.Upserts key n) (hf : m.get? k = some v) :
    n.get? k = some v := by
  cases h with
  | kept => exact hf
  | added ha =>
    have hs : k ≠ key := by
      rintro rfl
      simp [OrderedMap.has, hf] at ha
    rw [get?_set, if_neg hs, hf]

theorem mem_keys_iff_has : k ∈ m.keys ↔ m.has k = true := by rw [mem_keys_iff, has_iff]

theorem keys_set : (m.set key value).keys = if key ∈ m.keys then m.keys else m.keys ++ [key] :=
  keys_setEntry key value m.entries

theorem entries_set_of_fresh (h : key ∉ m.keys) :
    (m.set key value).entries = m.entries ++ [(key, value)] := setEntry_of_fresh h value

theorem keys_delete : (m.delete key).keys = m.keys.filter (· ≠ key) := by
  simp only [keys, delete, filter, filter_map]
  rfl

theorem entries_foldl_delete (ks : List κ) (m : OrderedMap κ ν) :
    (ks.foldl delete m).entries = m.entries.filter (fun e => e.1 ∉ ks) := by
  induction ks generalizing m with
  | nil => simp
  | cons k xs ih =>
    rw [foldl_cons, ih]
    simp [delete, filter, filter_filter, Bool.and_comm]

theorem foldl_delete_keys (m : OrderedMap κ ν) : m.keys.foldl delete m = empty := by
  ext1
  rw [entries_foldl_delete, empty, filter_eq_nil_iff]
  intro e hi
  have key : e.1 ∈ m.keys := mem_map_of_mem hi
  simpa using key

theorem perm_delete (h : m.get? key = some value) :
    m.entries.Perm ((key, value) :: (m.delete key).entries) := by
  have parts := (filter_append_perm (fun e => decide (e.1 = key)) m.entries).symm
  rw [filter_key m.nodup (mem_entries_iff.mpr h)] at parts
  simpa [delete, filter] using parts

def All (P : κ → ν → Prop) (m : OrderedMap κ ν) : Prop := ∀ k v, m.get? k = some v → P k v

theorem all_empty : (empty : OrderedMap κ ν).All P := nofun

theorem All.set (all : m.All P) (hh : P key value) : (m.set key value).All P := by
  intro k v hf
  rw [get?_set] at hf
  split at hf
  next hs =>
    cases hf
    exact hs ▸ hh
  · exact all k v hf

theorem All.delete (all : m.All P) (key : κ) : (m.delete key).All P :=
  fun k v hf => all k v (get?_of_delete hf)

theorem All.map_values {f : ν → κ} (all : m.All fun k v => f v = k) : m.values.map f = m.keys := by
  unfold values keys
  rw [map_map]
  apply map_congr_left
  intro entry hi
  exact all entry.1 entry.2 (mem_entries_iff.mp hi)

end OrderedMap

end DebugRouter.Library
