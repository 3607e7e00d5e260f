import DebugRouter.Library.Number
import DebugRouter.Library.OrderedMap

/-!
JSON values as ECMAScript holds them. `none : Option Json` is `undefined`, so `v?.key`
is `(v.bind (Json.get? key))`. An object is the list of its assignments: the last one
for a key counts, which is what `JSON.parse` makes of a repeated key.
-/
namespace DebugRouter.Library

inductive Json where
  | null
  | bool (value : Bool)
  | num (value : JsNumber)
  | str (value : String)
  | arr (items : List Json)
  | obj (fields : List (String × Json))

def lookupLast {ν : Type*} (key : String) : List (String × ν) → Option ν
  | [] => none
  | (k, v) :: rest => (lookupLast key rest).or (if k = key then some v else none)

section LookupLast
variable {ν : Type*}
variable (key : String)

theorem lookupLast_append (pre back : List (String × ν)) :
    lookupLast key (pre ++ back) = (lookupLast key back).or (lookupLast key pre) := by
  induction pre with
  | nil => simp [lookupLast]
  | cons entry xs ih => simp [lookupLast, ih, Option.or_assoc]

theorem lookupLast_map {μ : Type*} (f : ν → μ) (key : String) (fs : List (String × ν)) :
    lookupLast key (fs.map fun e => (e.1, f e.2)) = (lookupLast key fs).map f := by
  induction fs with
  | nil => rfl
  | cons entry xs ih =>
    obtain ⟨k, v⟩ := entry
    simp only [List.map_cons, lookupLast, ih]
    cases lookupLast key xs <;> by_cases hs : k = key <;> simp [hs]

def assignAll (fields : List (String × ν)) : List (String × ν) :=
  fields.foldl (fun acc e => setEntry e.1 e.2 acc) []

theorem lookup_assignFrom (fs acc : List (String × ν)) :
    (fs.foldl (fun acc e => setEntry e.1 e.2 acc) acc).lookup key =
      (lookupLast key fs).or (acc.lookup key) := by
  induction fs generalizing acc with
  | nil => simp [lookupLast]
  | cons entry xs ih =>
    obtain ⟨k, v⟩ := entry
    simp only [List.foldl_cons, ih, lookupLast, lookup_setEntry, Option.or_assoc]
    by_cases hs : k = key
    · simp [hs]
    · have apart : key ≠ k := fun h => hs h.symm
      simp [hs, apart]

theorem nodup_setEntry {key : String} {value : ν} {es : List (String × ν)}
    (h : (es.map Prod.fst).Nodup) :
    ((setEntry key value es).map Prod.fst).Nodup :=
  ((OrderedMap.mk es h).set key value).nodup

theorem nodup_assignFrom (fs acc : List (String × ν)) (h : (acc.map Prod.fst).Nodup) :
    ((fs.foldl (fun acc e => setEntry e.1 e.2 acc) acc).map Prod.fst).Nodup := by
  induction fs generalizing acc with
  | nil => exact h
  | cons entry xs ih => exact ih _ (nodup_setEntry h)

theorem lookupLast_eq_lookup {fs : List (String × ν)}
    (hn : (fs.map Prod.fst).Nodup) (key : String) :
    lookupLast key fs = fs.lookup key := by
  induction fs with
  | nil => rfl
  | cons entry xs ih =>
    obtain ⟨k, v⟩ := entry
    rw [List.map_cons, List.nodup_cons] at hn
    rw [lookupLast, ih hn.2, lookup_cons_ite]
    by_cases hs : key = k
    · subst hs
      have absent : xs.lookup key = none := by
        cases hf : xs.lookup key with
        | none => rfl
        | some w => exact absurd (List.mem_map.mpr ⟨_, mem_of_lookup hf, rfl⟩) hn.1
      simp [absent]
    · have apart : k ≠ key := fun h => hs h.symm
      simp [hs, apart]

theorem lookupLast_assignAll (fields : List (String × ν)) :
    lookupLast key (assignAll fields) = lookupLast key fields := by
  unfold assignAll
  rw [lookupLast_eq_lookup (nodup_assignFrom fields [] (by simp)), lookup_assignFrom]
  simp

end LookupLast

namespace Json

/-- Induction over values, with a hypothesis for every item and every field. -/
@[elab_as_elim, induction_eliminator]
theorem induct {motive : Json → Prop} (null : motive .null) (bool : ∀ b, motive (.bool b))
    (num : ∀ n, motive (.num n)) (str : ∀ s, motive (.str s))
    (arr : ∀ items, (∀ v ∈ items, motive v) → motive (.arr items))
    (obj : ∀ fs, (∀ e ∈ fs, motive e.2) → motive (.obj fs)) (v : Json) : motive v :=
  @Json.rec motive (fun items => ∀ v ∈ items, motive v) (fun fs => ∀ e ∈ fs, motive e.2)
    (fun e => motive e.2) null bool num str arr obj (by simp)
    (fun _ _ hh ht => by simpa using ⟨hh, ht⟩) (by simp)
    (fun _ _ hh ht => by simpa using ⟨hh, by simpa using ht⟩) (fun _ _ hv => hv) v

mutual
def beq : Json → Json → Bool
  | null, null => true
  | bool a, bool b => a == b
  | num a, num b => a == b
  | str a, str b => a == b
  | arr a, arr b => beqItems a b
  | obj a, obj b => beqFields a b
  | _, _ => false
def beqItems : List Json → List Json → Bool
  | [], [] => true
  | a :: as, b :: bs => beq a b && beqItems as bs
  | _, _ => false
def beqFields : List (String × Json) → List (String × Json) → Bool
  | [], [] => true
  | (k, a) :: as, (l, b) :: bs => k == l && beq a b && beqFields as bs
  | _, _ => false
end

mutual
theorem beq_iff (a b : Json) : beq a b = true ↔ a = b := by
  cases a <;> cases b <;> simp [beq, beqItems_iff, beqFields_iff]
theorem beqItems_iff (as bs : List Json) : beqItems as bs = true ↔ as = bs := by
  cases as with
  | nil => cases bs <;> simp [beqItems]
  | cons a as => cases bs <;> simp [beqItems, beq_iff, beqItems_iff as]
theorem beqFields_iff (as bs : List (String × Json)) : beqFields as bs = true ↔ as = bs := by
  cases as with
  | nil => cases bs <;> simp [beqFields]
  | cons a as =>
    obtain ⟨k, a⟩ := a
    cases bs with
    | nil => simp [beqFields]
    | cons b bs => simp [beqFields, beq_iff a, beqFields_iff as, Prod.ext_iff]
end

instance : DecidableEq Json := fun a b => decidable_of_iff (beq a b = true) (beq_iff a b)

/-- `v.key` of a value that is neither `null` nor `undefined`. Only object fields are read
by the code modelled here, so every other value has no such property. -/
def get? (key : String) : Json → Option Json
  | obj fields => lookupLast key fields
  | _ => none

def hasOwn (key : String) (v : Json) : Bool := (v.get? key).isSome

/-- `v.key = value` on an object; other values have no fields to keep it in. -/
def setField (v : Json) (key : String) (value : Json) : Json :=
  match v with
  | obj fields => obj (assignAll (fields ++ [(key, value)]))
  | v => v

/-- Rewrite what stands at a path of fields; nothing happens where the path ends early. -/
def modifyAt : List String → (Json → Json) → Json → Json
  | [], f, v => f v
  | key :: path, f, v =>
    match v.get? key with
    | some inner => v.setField key (modifyAt path f inner)
    | none => v

def isObject : Json → Bool
  | obj _ => true
  | _ => false

def truthy : Json → Bool
  | null => false
  | bool b => b
  | num n => n ≠ JsNumber.ofInt 0
  | str s => s ≠ ""
  | arr _ => true
  | obj _ => true

def asString? : Json → Option String
  | str s => some s
  | _ => none

def safeInteger? : Json → Option Int
  | num n => n.toSafeInteger?
  | _ => none

def ofInt (n : Int) : Json := num (JsNumber.ofInt n)

/-- An object literal; a field whose value is `undefined` is left out, as `JSON.stringify` does. -/
def mk (fields : List (String × Option Json)) : Json :=
  obj (fields.filterMap fun e => e.2.map fun v => (e.1, v))

@[simp] theorem get?_mk_nil (key : String) : (mk []).get? key = none := rfl

@[simp] theorem get?_mk_cons (k key : String) (v : Option Json) (xs : List (String × Option Json)) :
    (mk ((k, v) :: xs)).get? key = ((mk xs).get? key).or (if k = key then v else none) := by
  cases v with
  | none => simp [mk, get?]
  | some v => simp [mk, get?, lookupLast]

variable {v inner : Json} {key : String}

theorem get?_setField (hi : v.isObject = true) (key : String) (value : Json)
    (k : String) :
    (v.setField key value).get? k = if k = key then some value else v.get? k := by
  cases v with
  | obj fields =>
    simp only [setField, get?, lookupLast_assignAll, lookupLast_append, lookupLast]
    by_cases hs : k = key
    · simp [hs]
    · have apart : key ≠ k := fun h => hs h.symm
      simp [hs, apart]
  | null | bool _ | num _ | str _ | arr _ => cases hi

theorem isObject_setField (v : Json) (key : String) (value : Json) :
    (v.setField key value).isObject = v.isObject := by
  cases v <;> rfl

theorem isObject_of_get? (h : v.get? key = some inner) : v.isObject = true := by
  cases v with
  | obj fs => rfl
  | null | bool _ | num _ | str _ | arr _ => cases h

theorem truthy_of_get? (h : v.get? key = some inner) : v.truthy = true := by
  cases v with
  | obj fs => rfl
  | null | bool _ | num _ | str _ | arr _ => cases h

@[simp] theorem modifyAt_nil (f : Json → Json) (v : Json) : v.modifyAt [] f = f v := rfl

theorem get?_modifyAt (key : String) (p : List String) (f : Json → Json) (v : Json) (k : String) :
    (v.modifyAt (key :: p) f).get? k = if k = key then (v.get? key).map (modifyAt p f)
      else v.get? k := by
  unfold modifyAt
  cases hf : v.get? key with
  | some inner => exact get?_setField (isObject_of_get? hf) key _ k
  | none =>
    by_cases hs : k = key
    · simp [hs, hf]
    · simp [hs]

theorem safeInteger?_ofInt {n : Int} (h : n.natAbs < 2 ^ 53) : (ofInt n).safeInteger? = some n := by
  unfold ofInt safeInteger?
  exact JsNumber.toSafeInteger?_ofInt h

end Json

def nullish : Option Json → Bool
  | none | some .null => true
  | _ => false

def orElse (v : Option Json) (fallback : Json) : Json :=
  match v with
  | none | some .null => fallback
  | some v => v

def prop (v : Option Json) (key : String) : Option Json := v.bind (Json.get? key)

def isTruthy (v : Option Json) : Bool := (v.map Json.truthy).getD false

end DebugRouter.Library
