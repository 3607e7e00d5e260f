import DebugRouter.Library.JsonRoundTrip

/-!
Objects with each key once, as `JSON.parse` makes them: a field that is written keeps its place.
-/
namespace DebugRouter.Library

open List Option Json

inductive Json.Keyed : Json → Prop where
  | null : Keyed .null
  | bool (b : Bool) : Keyed (.bool b)
  | num (n : JsNumber) : Keyed (.num n)
  | str (s : String) : Keyed (.str s)
  | arr {items : List Json} (all : ∀ v ∈ items, Keyed v) : Keyed (.arr items)
  | obj {fields : List (String × Json)} (nodup : (fields.map Prod.fst).Nodup)
      (all : ∀ e ∈ fields, Keyed e.2) :
    Keyed (.obj fields)

/- Parsed values are keyed -/

variable {ν μ : Type*} {key : String} {e : String × ν}

theorem mem_setEntry {x : ν} {fields : List (String × ν)}
    (mem : e ∈ setEntry key x fields) : e = (key, x) ∨ e ∈ fields := by
  induction fields with
  | nil => exact .inl (mem_singleton.mp mem)
  | cons f fields ih =>
    rw [setEntry] at mem
    split at mem
    next hh =>
      rcases mem_cons.mp mem with rfl | later
      · exact .inl (by rw [hh])
      · exact .inr (mem_cons_of_mem f later)
    · rcases mem_cons.mp mem with rfl | later
      · exact .inr mem_cons_self
      · exact (ih later).imp_right (mem_cons_of_mem f)

theorem mem_assignAll {fields : List (String × ν)} (mem : e ∈ assignAll fields) : e ∈ fields := by
  have all : ∀ rest acc : List (String × ν), e ∈ rest.foldl (fun acc e => setEntry e.1 e.2 acc) acc →
      e ∈ acc ∨ e ∈ rest := by
    intro rest
    induction rest with
    | nil => exact fun acc mem => .inl mem
    | cons f rest ih =>
      intro acc mem
      rcases ih _ mem with hh | later
      · rcases mem_setEntry hh with rfl | old
        · exact .inr mem_cons_self
        · exact .inl old
      · exact .inr (mem_cons_of_mem f later)
  exact (all fields [] mem).resolve_left not_mem_nil

theorem Json.keyed_assignAll {fields : List (String × Json)} (all : ∀ e ∈ fields, e.2.Keyed) :
    (obj (assignAll fields)).Keyed :=
  .obj (nodup_assignFrom fields [] nodup_nil) fun e mem => all e (mem_assignAll mem)

theorem Json.keyed_normalize (v : Json) : v.normalize.Keyed := by
  induction v with
  | null => exact .null
  | bool b => exact .bool b
  | num n =>
    cases n with
    | finite x => exact .num _
    | infinite neg => exact .null
  | str s => exact .str s
  | arr l ih =>
    rw [normalize, normalizeItems_eq]
    refine .arr fun w mem => ?_
    obtain ⟨v, hh, rfl⟩ := mem_map.mp mem
    exact ih v hh
  | obj fs ih =>
    rw [normalize, normalizeFields_eq]
    refine keyed_assignAll fun e mem => ?_
    obtain ⟨e, hh, rfl⟩ := mem_map.mp mem
    exact ih e hh

namespace JsonText

structure ReadsKeyed (fuel : Nat) : Prop where
  value : ∀ {cs v rest}, parseValue fuel cs = some (v, rest) → v.Keyed
  items : ∀ {cs items rest}, parseItems fuel cs = some (items, rest) → ∀ v ∈ items, v.Keyed
  fields : ∀ {cs fields rest}, parseFields fuel cs = some (fields, rest) → ∀ e ∈ fields, e.2.Keyed

theorem forall_mem_more {α : Type} {P : α → Prop} {x : α} {xs : List α} {close : Char}
    {rest rest' : List Char} {more : List Char → Option (List α × List Char)} (hx : P x)
    (hm : ∀ {cs ys rest}, more cs = some (ys, rest) → ∀ y ∈ ys, P y)
    (h : (match skip rest with
      | [] => none
      | c :: rest =>
        if c = close then some ([x], rest)
        else if c = ',' then (more rest).bind fun (ys, rest) => some (x :: ys, rest)
        else none) = some (xs, rest')) : ∀ y ∈ xs, P y := by
  split at h
  · cases h
  split at h
  · cases h
    simpa using hx
  split at h
  · obtain ⟨⟨ys, after⟩, hl, ⟨⟩⟩ := bind_eq_some_iff.mp h
    exact forall_mem_cons.mpr ⟨hx, hm hl⟩
  · cases h

variable {fuel : Nat} {cs rest : List Char}

theorem ReadsKeyed.value_succ {v : Json} (ih : ReadsKeyed fuel)
    (hr : parseValue (fuel + 1) cs = some (v, rest)) :
    v.Keyed := by
  rw [parseValue] at hr
  split at hr
  · cases hr
  split at hr
  · obtain ⟨_, -, ⟨⟩⟩ := map_eq_some_iff.mp hr
    exact .str _
  split at hr
  · split at hr
    · cases hr
      exact .arr (forall_mem_nil _)
    · obtain ⟨_, hh, ⟨⟩⟩ := map_eq_some_iff.mp hr
      exact .arr (ih.items hh)
  split at hr
  · split at hr
    · cases hr
      exact .obj nodup_nil (forall_mem_nil _)
    · obtain ⟨_, hh, ⟨⟩⟩ := map_eq_some_iff.mp hr
      exact keyed_assignAll (ih.fields hh)
  split at hr
  · obtain ⟨_, -, ⟨⟩⟩ := map_eq_some_iff.mp hr
    exact .null
  split at hr
  · obtain ⟨_, -, ⟨⟩⟩ := map_eq_some_iff.mp hr
    exact .bool true
  split at hr
  · obtain ⟨_, -, ⟨⟩⟩ := map_eq_some_iff.mp hr
    exact .bool false
  · obtain ⟨_, -, ⟨⟩⟩ := map_eq_some_iff.mp hr
    exact .num _

theorem ReadsKeyed.fields_succ {es : List (String × Json)} (ih : ReadsKeyed fuel)
    (hr : parseFields (fuel + 1) cs = some (es, rest)) : ∀ e ∈ es, e.2.Keyed := by
  rw [parseFields] at hr
  split at hr
  · cases hr
  split at hr
  · obtain ⟨⟨key, after⟩, -, hr⟩ := bind_eq_some_iff.mp hr
    dsimp only at hr
    split at hr
    · cases hr
    split at hr
    · obtain ⟨⟨v, after⟩, first, hr⟩ := bind_eq_some_iff.mp hr
      exact forall_mem_more (ih.value first) ih.fields hr
    · cases hr
  · cases hr

theorem readsKeyed (fuel : Nat) : ReadsKeyed fuel := by
  induction fuel with
  | zero => refine ⟨?_, ?_, ?_⟩ <;> simp [parseValue, parseItems, parseFields]
  | succ fuel ih =>
    refine ⟨ih.value_succ, ?_, ih.fields_succ⟩
    intro cs l rest hr
    rw [parseItems] at hr
    obtain ⟨⟨v, after⟩, first, hr⟩ := bind_eq_some_iff.mp hr
    exact forall_mem_more (ih.value first) ih.items hr

theorem keyed_parse {text : String} {v : Json} (h : parse text = some v) : v.Keyed := by
  unfold parse at h
  split at h
  next hf =>
    split at h
    · cases h
      exact (readsKeyed _).value hf
    · cases h
  · cases h

end JsonText

/- A field that is written -/

theorem assignAll_of_nodup {fields : List (String × ν)} (h : (fields.map Prod.fst).Nodup) :
    assignAll fields = fields := by
  have kept : ∀ rest front : List (String × ν), ((front ++ rest).map Prod.fst).Nodup →
      rest.foldl (fun acc e => setEntry e.1 e.2 acc) front = front ++ rest := by
    intro rest
    induction rest with
    | nil => simp
    | cons e rest ih =>
      intro front h
      have new : e.1 ∉ front.map Prod.fst := by
        rw [map_append, map_cons, nodup_append] at h
        exact fun mem => h.2.2 e.1 mem e.1 mem_cons_self rfl
      rw [foldl_cons, setEntry_of_fresh new, ih, append_assoc]
      · rfl
      · rw [append_assoc]
        exact h
  exact kept fields [] h

theorem setField_obj {fs : List (String × Json)} (h : (fs.map Prod.fst).Nodup) (key : String)
    (x : Json) :
    (obj fs).setField key x = .obj (setEntry key x fs) := by
  have last : assignAll (fs ++ [(key, x)]) = setEntry key x (assignAll fs) := by
    simp [assignAll, foldl_append]
  rw [setField, last, assignAll_of_nodup h]

theorem map_setEntry (f : ν → μ) (key : String) (x : ν) (fs : List (String × ν)) :
    (setEntry key x fs).map (fun e => (e.1, f e.2)) =
      setEntry key (f x) (fs.map fun e => (e.1, f e.2)) := by
  induction fs with
  | nil => rfl
  | cons e fs ih =>
    rw [setEntry, map_cons, setEntry]
    split
    · rfl
    · rw [map_cons, ih]

theorem map_eq_setEntry {f g : ν → μ} {fs : List (String × ν)} {c : ν}
    (hn : (fs.map Prod.fst).Nodup) (hf : fs.lookup key = some c)
    (hs : ∀ e ∈ fs, e.1 ≠ key → f e.2 = g e.2) :
    fs.map (fun e => (e.1, f e.2)) = setEntry key (f c) (fs.map fun e => (e.1, g e.2)) := by
  induction fs with
  | nil => cases hf
  | cons e fs ih =>
    obtain ⟨k, w⟩ := e
    rw [map_cons, nodup_cons] at hn
    rw [lookup_cons_ite] at hf
    rw [map_cons, map_cons, setEntry]
    split at hf
    next hh =>
      cases hf
      rw [if_pos hh.symm]
      congr 1
      refine map_congr_left fun e mem => ?_
      rw [hs e (mem_cons_of_mem _ mem) ?_]
      intro hag
      exact hn.1 (mem_map.mpr ⟨e, mem, hag.trans hh⟩)
    next he =>
      have apart : k ≠ key := fun hs => he hs.symm
      rw [if_neg apart, hs (k, w) mem_cons_self apart,
        ih hn.2 hf fun e mem => hs e (mem_cons_of_mem _ mem)]

end DebugRouter.Library
