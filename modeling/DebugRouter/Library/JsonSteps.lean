import DebugRouter.Library.JsonRoundTrip

/-!
JSON values by what is read at every path, the items of arrays included. A change of a value is told
by the paths it overrides, and everything else reads as before.
-/
namespace DebugRouter.Library

open List Option

inductive Step where
  | field (key : String)
  | item (index : Nat)
  deriving DecidableEq

/-- A reading with other values at some paths, and nothing below those. The first change that
applies counts. -/
def override (changes : List (List Step × Json)) (reading : List Step → Option Json)
    (path : List Step) : Option Json :=
  match changes.find? fun e => e.1.isPrefixOf path with
  | some e => if path = e.1 then some e.2 else none
  | none => reading path

theorem override_nil (reading : List Step → Option Json) : override [] reading = reading := rfl

theorem override_append (later earlier : List (List Step × Json))
    (reading : List Step → Option Json) :
    override later (override earlier reading) = override (later ++ earlier) reading := by
  funext path
  unfold override
  rw [find?_append]
  cases later.find? fun e => e.1.isPrefixOf path <;> rfl

theorem override_override (changes : List (List Step × Json)) (reading : List Step → Option Json) :
    override changes (override changes reading) = override changes reading := by
  rw [override_append]
  funext path
  unfold override
  rw [find?_append]
  cases changes.find? fun e => e.1.isPrefixOf path <;> rfl

theorem override_cons (e : List Step × Json) (changes : List (List Step × Json))
    (reading : List Step → Option Json) (path : List Step) : override (e :: changes) reading path =
      if e.1 <+: path then if path = e.1 then some e.2 else none
      else override changes reading path := by
  unfold override
  rw [find?_cons]
  by_cases hb : e.1 <+: path
  · have hh := isPrefixOf_iff_prefix.mpr hb
    simp [hh, hb]
  · have he : e.1.isPrefixOf path = false := by
      rw [← Bool.not_eq_true, isPrefixOf_iff_prefix]
      exact hb
    simp [he, hb]

theorem override_move {later xs : List (List Step × Json)} {e : List Step × Json}
    (h : ∀ f ∈ later, ¬ f.1 <+: e.1 ∧ ¬ e.1 <+: f.1) (reading : List Step → Option Json) :
    override (later ++ e :: xs) reading = override (e :: (later ++ xs)) reading := by
  funext path
  by_cases hh : e.1 <+: path
  · have none : later.find? (fun f => f.1.isPrefixOf path) = none := by
      rw [find?_eq_none]
      intro f mem hb
      have starts := isPrefixOf_iff_prefix.mp hb
      rcases prefix_or_prefix_of_prefix starts hh with first | second
      · exact (h f mem).1 first
      · exact (h f mem).2 second
    have found := isPrefixOf_iff_prefix.mpr hh
    simp [override, find?_append, none, found]
  · have hs : e.1.isPrefixOf path = false := by
      rw [← Bool.not_eq_true, isPrefixOf_iff_prefix]
      exact hh
    simp [override, find?_append, hs]

namespace Json

def step? : Step → Json → Option Json
  | .field key, v => v.get? key
  | .item index, .arr items => items[index]?
  | .item _, _ => none

def follow : List Step → Json → Option Json
  | [], v => some v
  | s :: path, v => (v.step? s).bind (follow path)

def top : Json → Json
  | arr _ => arr []
  | obj _ => obj []
  | v => v

def reads (v : Json) (path : List Step) : Option Json := (v.follow path).map top

/-- What JSON text says of a value: a number beyond the doubles is null. -/
def written : Json → Json
  | num (.infinite _) => null
  | v => v

def isLeaf : Json → Bool
  | arr _ | obj _ => false
  | _ => true

variable {v x inner : Json} {changes : List (List Step × Json)}

theorem top_of_isLeaf (h : v.isLeaf = true) : v.top = v := by
  cases v with
  | arr _ | obj _ => cases h
  | null | bool _ | num _ | str _ => rfl

theorem step?_of_isLeaf (h : v.isLeaf = true) (s : Step) : v.step? s = none := by
  cases v with
  | arr _ | obj _ => cases h
  | null | bool _ | num _ | str _ => cases s <;> rfl

theorem reads_cons (v : Json) (s : Step) (path : List Step) :
    v.reads (s :: path) = (v.step? s).bind fun inner => inner.reads path := by
  unfold reads
  rw [follow]
  cases v.step? s <;> rfl

theorem reads_leaf (h : v.isLeaf = true) (path : List Step) :
    v.reads path = if path = [] then some v else none := by
  cases path with
  | nil => simp [reads, follow, top_of_isLeaf h]
  | cons s path => simp [reads_cons, step?_of_isLeaf h]

theorem follow_append (pre back : List Step) (v : Json) :
    v.follow (pre ++ back) = (v.follow pre).bind (follow back) := by
  induction pre generalizing v with
  | nil => rfl
  | cons s pre ih =>
    rw [cons_append, follow, follow]
    cases v.step? s with
    | none => rfl
    | some inner => exact ih inner

theorem reads_append (v : Json) (pre back : List Step) :
    v.reads (pre ++ back) = (v.follow pre).bind fun inner => inner.reads back := by
  unfold reads
  rw [follow_append]
  cases v.follow pre <;> rfl

theorem override_same {path : List Step} (hh : v.follow path = some x) (hl : x.isLeaf = true) :
    override [(path, x)] v.reads = v.reads := by
  funext p
  rw [override_cons, override_nil]
  split
  next hb =>
    obtain ⟨xs, rfl⟩ := hb
    rw [reads_append, hh, bind_some, reads_leaf hl]
    simp
  · rfl

/- Through the text -/

theorem step?_normalize (v : Json) (s : Step) : v.normalize.step? s = (v.step? s).map normalize := by
  cases s with
  | field key => exact get?_normalize v key
  | item index =>
    cases v with
    | arr l => simp [normalize, step?, normalizeItems_eq]
    | num n => cases n <;> rfl
    | null | bool _ | str _ | obj _ => rfl

theorem top_normalize (v : Json) : v.normalize.top = v.top.written := by
  cases v with
  | num n => cases n <;> rfl
  | null | bool _ | str _ | arr _ | obj _ => rfl

theorem reads_normalize (v : Json) (path : List Step) :
    v.normalize.reads path = (v.reads path).map written := by
  induction path generalizing v with
  | nil => simp [reads, follow, top_normalize]
  | cons s path ih =>
    rw [reads_cons, reads_cons, step?_normalize]
    cases v.step? s with
    | none => rfl
    | some inner => exact ih inner

theorem written_written (v : Json) : v.written.written = v.written := by
  cases v with
  | num n => cases n <;> rfl
  | null | bool _ | str _ | arr _ | obj _ => rfl

theorem isObject_written_top (v : Json) : v.top.written.isObject = v.isObject := by
  cases v with
  | num n => cases n <;> rfl
  | null | bool _ | str _ | arr _ | obj _ => rfl

theorem written_top_eq_str {text : String} (h : v.top.written = .str text) : v = .str text := by
  cases v with
  | str t => exact h
  | num n => cases n <;> cases h
  | null | bool _ | arr _ | obj _ => cases h

/- Through a change -/

theorem reads_nil (v : Json) : v.reads [] = some v.top := rfl

theorem step?_setField (h : v.isObject = true) (key : String) (x : Json) (s : Step) :
    (v.setField key x).step? s = if s = .field key then some x else v.step? s := by
  cases s with
  | field k =>
    have named := get?_setField h key x k
    simpa [step?] using named
  | item index =>
    cases v with
    | obj fs => rfl
    | null | bool _ | num _ | str _ | arr _ => cases h

theorem top_setField (key : String) (x : Json) : (v.setField key x).top = v.top := by
  cases v <;> rfl

theorem reads_setField (ho : v.isObject = true) (key : String) (hl : x.isLeaf = true) :
    (v.setField key x).reads = override [([.field key], x)] v.reads := by
  funext path
  rw [override_cons]
  cases path with
  | nil => simp [reads_nil, top_setField, override_nil]
  | cons s path =>
    rw [reads_cons, step?_setField ho]
    by_cases hh : s = .field key
    · subst hh
      simp [reads_leaf hl]
    · have apart : ¬ [Step.field key] <+: s :: path := by
        rintro ⟨xs, hs⟩
        exact hh (cons.inj hs).1.symm
      rw [if_neg hh, if_neg apart, override_nil, reads_cons]

theorem reads_modifyAt_cons {key : String} (hf : v.get? key = some inner) (path : List String)
    (f : Json → Json)
    (hb : (inner.modifyAt path f).reads = override changes inner.reads) :
    (v.modifyAt (key :: path) f).reads =
      override (changes.map fun e => (.field key :: e.1, e.2)) v.reads := by
  have object := isObject_of_get? hf
  have same : v.modifyAt (key :: path) f = v.setField key (inner.modifyAt path f) := by
    rw [modifyAt, hf]
  funext p
  rw [same]
  cases p with
  | nil =>
    have none : (changes.map fun e => (Step.field key :: e.1, e.2)).find?
        (fun e => e.1.isPrefixOf []) = none := by
      simp [find?_eq_none]
    simp only [override, none, reads_nil, top_setField]
  | cons s p =>
    rw [reads_cons, step?_setField object]
    unfold override
    rw [find?_map]
    by_cases hh : s = .field key
    · subst hh
      have inside : v.reads (.field key :: p) = inner.reads p := by
        rw [reads_cons, step?, hf, bind_some]
      simp only [if_true, bind_some, hb, override, inside, Function.comp_def, isPrefixOf_cons_cons,
        beq_self_eq_true, Bool.true_and]
      cases changes.find? fun e => e.1.isPrefixOf p <;> simp
    · have apart : Step.field key ≠ s := fun same => hh same.symm
      have none : changes.find? (fun e => (Step.field key :: e.1).isPrefixOf (s :: p)) = none := by
        simp [find?_eq_none, apart]
      simp only [if_neg hh, Function.comp_def, none, map_none, reads_cons]

theorem reads_modifyAt_of {path : List String} (hf : v.follow (path.map .field) = some inner)
    {f : Json → Json} (hb : (f inner).reads = override changes inner.reads) :
    (v.modifyAt path f).reads =
      override (changes.map fun e => (path.map .field ++ e.1, e.2)) v.reads := by
  induction path generalizing v with
  | nil =>
    cases hf
    simpa using hb
  | cons k path ih =>
    rw [List.map_cons, follow] at hf
    obtain ⟨next, hh, hf⟩ := Option.bind_eq_some_iff.mp hf
    rw [reads_modifyAt_cons hh path f (ih hf), List.map_map]
    rfl

theorem reads_modifyAt_of_missing {path : List String} (h : v.follow (path.map .field) = none)
    (f : Json → Json) : (v.modifyAt path f).reads = v.reads := by
  induction path generalizing v with
  | nil => cases h
  | cons k path ih =>
    rw [map_cons, follow, step?] at h
    cases hf : v.get? k with
    | none => rw [modifyAt, hf]
    | some inner =>
      rw [hf, bind_some] at h
      have below : (inner.modifyAt path f).reads = override [] inner.reads := ih h
      exact reads_modifyAt_cons hf path f below

theorem reads_modifyAt (path : List String) (hf : v.follow (path.map .field) = some inner)
    (ho : inner.isObject = true) (key : String) (hl : x.isLeaf = true) :
    (v.modifyAt path (·.setField key x)).reads =
      override [(path.map .field ++ [.field key], x)] v.reads := by
  have hc : (inner.setField key x).reads = override [([.field key], x)] inner.reads :=
    reads_setField ho key hl
  exact reads_modifyAt_of (f := (·.setField key x)) hf hc

/- Through the text, twice -/

theorem map_written_override (changes : List (List Step × Json)) {r s : List Step → Option Json}
    (h : ∀ path, (r path).map written = (s path).map written) (path : List Step) :
    (override changes r path).map written = (override changes s path).map written := by
  unfold override
  cases changes.find? fun e => e.1.isPrefixOf path with
  | none => exact h path
  | some e => rfl

end Json

end DebugRouter.Library
