import Mathlib.Data.List.Basic
import Mathlib.Data.List.Nodup

/-!
An ECMAScript `Map` by its slots. Deleting an entry leaves a hole, so a `forEach` that is under way
keeps its place whatever its callback deletes.
-/
namespace DebugRouter.Library

open List

section Slots
variable {κ : Type*} {ν : Type*}

def slotKeys (slots : List (Option (κ × ν))) : List κ := slots.filterMap (Option.map Prod.fst)

variable {slots : List (Option (κ × ν))} {k : κ} {v : ν}

theorem mem_slotKeys : k ∈ slotKeys slots ↔ ∃ v, some (k, v) ∈ slots := by
  simp only [slotKeys, mem_filterMap, Option.map_eq_some_iff]
  constructor
  · rintro ⟨slot, mem, ⟨key, value⟩, rfl, rfl⟩
    exact ⟨value, mem⟩
  · rintro ⟨value, mem⟩
    exact ⟨some (k, value), mem, (k, value), rfl, rfl⟩

theorem value_unique (hn : (slotKeys slots).Nodup) {w : ν} (first : some (k, v) ∈ slots)
    (hse : some (k, w) ∈ slots) : v = w := by
  induction slots with
  | nil => cases first
  | cons slot rest ih =>
    cases slot with
    | none =>
      have same : slotKeys (none :: rest) = slotKeys rest := rfl
      rw [same] at hn
      exact ih hn (by simpa using first) (by simpa using hse)
    | some entry =>
      have same : slotKeys (some entry :: rest) = entry.1 :: slotKeys rest := rfl
      rw [same, nodup_cons] at hn
      have ha : ∀ value, entry.1 = k → some (k, value) ∉ rest := by
        rintro value rfl mem
        exact hn.1 (mem_slotKeys.mpr ⟨value, mem⟩)
      rcases mem_cons.mp first with hh | later
      · cases hh
        rcases mem_cons.mp hse with ht | other
        · cases ht
          rfl
        · exact absurd other (ha w rfl)
      · rcases mem_cons.mp hse with ht | other
        · cases ht
          exact absurd later (ha v rfl)
        · exact ih hn.2 later other

end Slots

structure SlotMap (κ : Type*) (ν : Type*) where
  slots : List (Option (κ × ν))
  nodup : (slotKeys slots).Nodup

namespace SlotMap
variable {κ : Type*} {ν : Type*}

def empty : SlotMap κ ν := ⟨[], nodup_nil⟩

def size (m : SlotMap κ ν) : Nat := (slotKeys m.slots).length

structure Holed (m m' : SlotMap κ ν) : Prop where
  length : m'.slots.length = m.slots.length
  slot : ∀ i : Nat, m'.slots[i]? = m.slots[i]? ∨ m'.slots[i]? = some none

theorem Holed.refl (m : SlotMap κ ν) : Holed m m := ⟨rfl, fun _ => .inl rfl⟩

theorem Holed.trans {m m' m'' : SlotMap κ ν} (x : Holed m m') (hse : Holed m' m'') :
    Holed m m'' where
  length := hse.length.trans x.length
  slot := fun i => by
    rcases hse.slot i with hs | hole
    · rw [hs]
      exact x.slot i
    · exact .inr hole

theorem Holed.stays {m m' : SlotMap κ ν} {i : Nat} (hh : Holed m m')
    (hole : m.slots[i]? = some none) :
    m'.slots[i]? = some none := by
  rcases hh.slot i with hs | hole'
  · rw [hs, hole]
  · exact hole'

variable [DecidableEq κ]

def slotValue (key : κ) : Option (κ × ν) → Option ν
  | some (k, v) => if k = key then some v else none
  | none => none

def get? (m : SlotMap κ ν) (key : κ) : Option ν := m.slots.findSome? (slotValue key)

def refill (key : κ) (value : ν) : Option (κ × ν) → Option (κ × ν)
  | some (k, v) => if k = key then some (k, value) else some (k, v)
  | none => none

def punch (key : κ) : Option (κ × ν) → Option (κ × ν)
  | some (k, v) => if k = key then none else some (k, v)
  | none => none

theorem slotKeys_refill (key : κ) (value : ν) (slots : List (Option (κ × ν))) :
    slotKeys (slots.map (refill key value)) = slotKeys slots := by
  unfold slotKeys
  rw [filterMap_map]
  congr 1
  funext slot
  cases slot with
  | none => rfl
  | some entry =>
    dsimp only [Function.comp_apply, refill]
    split <;> rfl

theorem slotKeys_punch (key : κ) (slots : List (Option (κ × ν))) :
    slotKeys (slots.map (punch key)) = (slotKeys slots).filter (· ≠ key) := by
  induction slots with
  | nil => rfl
  | cons slot rest ih =>
    cases slot with
    | none => exact ih
    | some entry =>
      obtain ⟨k, v⟩ := entry
      have tail : slotKeys (some (k, v) :: rest) = k :: slotKeys rest := rfl
      rw [tail, map_cons, punch]
      by_cases hh : k = key
      · rw [if_pos hh, filter_cons_of_neg (by simpa using hh)]
        exact ih
      · rw [if_neg hh, filter_cons_of_pos (by simpa using hh), ← ih]
        rfl

def set (m : SlotMap κ ν) (key : κ) (value : ν) : SlotMap κ ν :=
  if here : key ∈ slotKeys m.slots then
    ⟨m.slots.map (refill key value), by rw [slotKeys_refill]; exact m.nodup⟩
  else
    ⟨m.slots ++ [some (key, value)], by
      have keys : slotKeys (m.slots ++ [some (key, value)]) = slotKeys m.slots ++ [key] :=
          filterMap_append ..
      rw [keys]
      exact nodup_append.mpr ⟨m.nodup, nodup_singleton key, fun a mem b single same => by
        rw [mem_singleton.mp single] at same
        exact here (same ▸ mem)⟩⟩

def delete (m : SlotMap κ ν) (key : κ) : SlotMap κ ν :=
  ⟨m.slots.map (punch key), by rw [slotKeys_punch]; exact m.nodup.filter _⟩

variable {m : SlotMap κ ν} {key k : κ} {v : ν}

theorem get?_eq_some_iff : m.get? k = some v ↔ some (k, v) ∈ m.slots := by
  have hr : ∀ slot : Option (κ × ν), ∀ w, slotValue k slot = some w ↔ slot = some (k, w) := by
    intro slot w
    cases slot with
    | none => simp [slotValue]
    | some entry =>
      obtain ⟨key, value⟩ := entry
      simp [slotValue]
  constructor
  · intro hf
    obtain ⟨slot, mem, hh⟩ := exists_of_findSome?_eq_some hf
    rw [(hr slot v).mp hh] at mem
    exact mem
  · intro mem
    cases hf : m.get? k with
    | none =>
      have hm := findSome?_eq_none_iff.mp hf _ mem
      rw [(hr _ v).mpr rfl] at hm
      cases hm
    | some w =>
      obtain ⟨slot, ho, hh⟩ := exists_of_findSome?_eq_some hf
      rw [(hr slot w).mp hh] at ho
      rw [value_unique m.nodup mem ho]

theorem mem_keys_iff : k ∈ slotKeys m.slots ↔ ∃ v, m.get? k = some v := by
  rw [mem_slotKeys]
  exact exists_congr fun v => get?_eq_some_iff.symm

@[simp] theorem get?_empty : (empty : SlotMap κ ν).get? k = none := rfl

theorem get?_delete : (m.delete key).get? k = if k = key then none else m.get? k := by
  have mem : ∀ v, some (k, v) ∈ (m.delete key).slots ↔ k ≠ key ∧ some (k, v) ∈ m.slots := by
    intro v
    simp only [delete, mem_map]
    constructor
    · rintro ⟨slot, hi, hp⟩
      cases slot with
      | none => cases hp
      | some entry =>
        obtain ⟨key', value⟩ := entry
        rw [punch] at hp
        split at hp
        · cases hp
        next ha =>
          cases hp
          exact ⟨ha, hi⟩
    · rintro ⟨ha, hi⟩
      exact ⟨some (k, v), hi, if_neg ha⟩
  ext v
  rw [get?_eq_some_iff, mem]
  split
  next hs => simp [hs]
  next ha =>
    rw [get?_eq_some_iff]
    exact and_iff_right ha

theorem get?_set (value : ν) :
    (m.set key value).get? k = if k = key then some value else m.get? k := by
  ext v
  rw [get?_eq_some_iff, set]
  split
  next hh =>
    obtain ⟨old, hst⟩ := mem_slotKeys.mp hh
    rw [mem_map]
    constructor
    · rintro ⟨slot, hi, hfi⟩
      cases slot with
      | none => cases hfi
      | some entry =>
        obtain ⟨key', w⟩ := entry
        rw [refill] at hfi
        split at hfi
        next hs =>
          cases hfi
          rw [if_pos hs]
        next ha =>
          cases hfi
          rw [if_neg ha]
          exact get?_eq_some_iff.mpr hi
    · intro hf
      split at hf
      next hs =>
        cases hf
        exact ⟨some (k, old), hs ▸ hst, by rw [refill, if_pos hs]⟩
      next ha => exact ⟨some (k, v), get?_eq_some_iff.mp hf, if_neg ha⟩
  next hab =>
    rw [mem_append, mem_singleton, Option.some.injEq, Prod.mk.injEq, ← get?_eq_some_iff]
    constructor
    · rintro (old | ⟨rfl, rfl⟩)
      · rw [if_neg]
        · exact old
        · rintro rfl
          exact hab (mem_keys_iff.mpr ⟨v, old⟩)
      · rw [if_pos rfl]
    · intro hf
      split at hf
      next hs =>
        cases hf
        exact .inr ⟨hs, rfl⟩
      · exact .inl hf

theorem size_eq_zero_iff : m.size = 0 ↔ ∀ k, m.get? k = none := by
  rw [size, length_eq_zero_iff, eq_nil_iff_forall_not_mem]
  constructor
  · intro none k
    cases hf : m.get? k with
    | none => rfl
    | some v => exact absurd (mem_keys_iff.mpr ⟨v, hf⟩) (none k)
  · intro none k mem
    obtain ⟨v, hf⟩ := mem_keys_iff.mp mem
    rw [none] at hf
    cases hf

variable {m' : SlotMap κ ν} {i : Nat}

theorem holed_delete (m : SlotMap κ ν) (key : κ) : Holed m (m.delete key) where
  length := length_map ..
  slot := fun i => by
    rw [delete, getElem?_map]
    cases m.slots[i]? with
    | none => exact .inl rfl
    | some slot =>
      cases slot with
      | none => exact .inl rfl
      | some entry =>
        rw [Option.map_some, punch]
        split
        · exact .inr rfl
        · exact .inl rfl

theorem Holed.get? (hho : Holed m m') (hf : m'.get? k = some v) : m.get? k = some v := by
  rw [get?_eq_some_iff] at hf ⊢
  obtain ⟨i, hh⟩ := mem_iff_getElem?.mp hf
  rcases hho.slot i with hs | hole
  · exact mem_iff_getElem?.mpr ⟨i, hs ▸ hh⟩
  · rw [hh] at hole
    cases hole

theorem Holed.punched (hho : Holed m m') (hh : m.slots[i]? = some (some (k, v)))
    (hg : m'.get? k = none) : m'.slots[i]? = some none := by
  rcases hho.slot i with hs | hole
  · rw [hh] at hs
    have found := get?_eq_some_iff.mpr (mem_iff_getElem?.mpr ⟨i, hs⟩)
    rw [hg] at found
    cases found
  · exact hole

theorem get?_of_slot (h : m.slots[i]? = some (some (k, v))) : m.get? k = some v :=
  get?_eq_some_iff.mpr (mem_iff_getElem?.mpr ⟨i, h⟩)

theorem get?_of_holes {j : Nat}
    (hho : ∀ i : Nat, i < j → m.slots[i]? = none ∨ m.slots[i]? = some none)
    (hs : m.slots.length ≤ j) (k : κ) : m.get? k = none := by
  cases hf : m.get? k with
  | none => rfl
  | some v =>
    obtain ⟨i, hh⟩ := List.mem_iff_getElem?.mp (get?_eq_some_iff.mp hf)
    obtain ⟨hi, -⟩ := List.getElem?_eq_some_iff.mp hh
    rcases hho i (by omega) with none | hole
    · rw [hh] at none
      cases none
    · rw [hh] at hole
      cases hole

end SlotMap

/- Iteration -/

section ForEach
variable {κ : Type*} {ν : Type*} {σ : Type*} (read : σ → SlotMap κ ν) (visit : σ → κ → ν → σ)

/-- `forEach` from a slot on. The callback acts on the whole state; the map is read anew at every
slot. The first argument bounds the number of slots to look at. -/
def forEachFrom : Nat → Nat → σ → σ
  | 0, _, s => s
  | bound + 1, i, s =>
    match (read s).slots[i]? with
    | none => s
    | some none => forEachFrom bound (i + 1) s
    | some (some (k, v)) => forEachFrom bound (i + 1) (visit s k v)

/-- A callback that adds nothing to the map leaves no more slots to look at than there are. -/
def forEach (s : σ) : σ := forEachFrom read visit (read s).slots.length 0 s

variable {read visit}
variable {Inv : Nat → σ → Prop}

theorem forEachFrom_upholds {size : Nat} (hb : ∀ i s, Inv i s → (read s).slots.length ≤ size)
    (hh : ∀ i s, Inv i s → (read s).slots[i]? = some none → Inv (i + 1) s)
    (he : ∀ i s k v, Inv i s → (read s).slots[i]? = some (some (k, v)) → Inv (i + 1) (visit s k v))
    (bound i : Nat) (s : σ) (hen : size ≤ i + bound) (hst : Inv i s) :
    ∃ j, Inv j (forEachFrom read visit bound i s) ∧
    (read (forEachFrom read visit bound i s)).slots.length ≤ j := by
  induction bound generalizing i s with
  | zero =>
    have short := hb i s hst
    exact ⟨i, hst, by rw [forEachFrom]; omega⟩
  | succ bound ih =>
    rw [forEachFrom]
    cases hs : (read s).slots[i]? with
    | none => exact ⟨i, hst, getElem?_eq_none_iff.mp hs⟩
    | some content =>
      cases content with
      | none => exact ih (i + 1) s (by omega) (hh i s hst hs)
      | some e => exact ih (i + 1) (visit s e.1 e.2) (by omega) (he i s e.1 e.2 hst hs)

variable (read) in
theorem forEach_upholds {s : σ}
    (hb : ∀ i s', Inv i s' → (read s').slots.length ≤ (read s).slots.length)
    (hh : ∀ i s, Inv i s → (read s).slots[i]? = some none → Inv (i + 1) s)
    (he : ∀ i s k v, Inv i s → (read s).slots[i]? = some (some (k, v)) → Inv (i + 1) (visit s k v))
    (hs : Inv 0 s) :
    ∃ j, Inv j (forEach read visit s) ∧ (read (forEach read visit s)).slots.length ≤ j :=
  forEachFrom_upholds hb hh he _ 0 s (by omega) hs

end ForEach

end DebugRouter.Library
