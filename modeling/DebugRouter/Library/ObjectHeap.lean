import DebugRouter.Library.JsonKeys

/-!
JSON values as objects in memory. A variable holds a primitive or a reference to a cell; `load`
reads the value behind a variable, `trace` lists the cells it is made of. A value that `JSON.parse`
has just made shares no cell, neither with older values nor with itself.
-/
namespace DebugRouter.Library

open List

inductive Node (β : Type) where
  | arr (items : List β)
  | obj (fields : List (String × β))

inductive Val where
  | null
  | bool (value : Bool)
  | num (value : JsNumber)
  | str (value : String)
  | ref (address : Nat)

abbrev Cells := List (Node Val)

namespace Node
variable {β γ : Type}

def parts : Node β → List β
  | arr items => items
  | obj fields => fields.map Prod.snd

def map (f : β → γ) : Node β → Node γ
  | arr items => arr (items.map f)
  | obj fields => obj (fields.map fun e => (e.1, f e.2))

theorem map_congr {f g : β → γ} {node : Node β} (h : ∀ v ∈ node.parts, f v = g v) :
    node.map f = node.map g := by
  cases node with
  | arr l => exact congrArg arr (map_congr_left h)
  | obj fs =>
    refine congrArg obj (map_congr_left fun e mem => ?_)
    rw [h e.2 (mem_map_of_mem mem)]

theorem parts_map (f : β → γ) (node : Node β) : (node.map f).parts = node.parts.map f := by
  cases node with
  | arr l => rfl
  | obj fs => simp [map, parts, map_map, Function.comp_def]

end Node

namespace Val

def isLeaf : Val → Bool
  | ref _ => false
  | _ => true

def toJson : Val → Json
  | bool b => .bool b
  | num n => .num n
  | str s => .str s
  | null | ref _ => .null

def Below (v : Val) (bound : Nat) : Prop := ∀ a, v = .ref a → a < bound

variable {v : Val}

theorem below_of_isLeaf (h : v.isLeaf = true) (bound : Nat) : v.Below bound := by
  rintro a rfl
  cases h

theorem Below.mono {n m : Nat} (hb : v.Below n) (le : n ≤ m) : v.Below m :=
  fun a hs => (hb a hs).trans_le le

end Val

namespace Cells

/-- The parts of a cell are older than it, and each key of an object stands once. -/
structure Sound (cells : Cells) : Prop where
  founded : ∀ {a : Nat} {node : Node Val}, cells[a]? = some node → ∀ v ∈ node.parts, v.Below a
  keyed : ∀ {a : Nat} {fields : List (String × Val)}, cells[a]? = some (.obj fields) →
    (fields.map Prod.fst).Nodup

section Fold
variable {β : Type} (leaf : Val → β) (node : Nat → Node β → β)

/-- The value behind a variable, built from its leaves on; cells from `n` on are not looked at. -/
def fold (cells : Cells) : Nat → Val → β
  | n + 1, .ref a =>
    match cells[a]? with
    | some c => node a (c.map (fold cells n))
    | none => leaf (.ref a)
  | _, v => leaf v

variable {leaf node} {cs : Cells}

theorem fold_leaf {v : Val} (h : v.isLeaf = true) (n : Nat) : fold leaf node cs n v = leaf v := by
  cases v with
  | ref a => cases h
  | null | bool _ | num _ | str _ => cases n <;> rfl

theorem fold_stable (hso : cs.Sound) {n m : Nat} {v : Val} (hin : v.Below n) (inside' : v.Below m) :
    fold leaf node cs n v = fold leaf node cs m v := by
  induction n generalizing m v with
  | zero =>
    have hi : v.isLeaf = true := by
      cases v with
      | ref a => exact absurd (hin a rfl) (Nat.not_lt_zero a)
      | null | bool _ | num _ | str _ => rfl
    rw [fold_leaf hi, fold_leaf hi]
  | succ n ih =>
    cases v with
    | ref a =>
      have low := hin a rfl
      have low' := inside' a rfl
      obtain ⟨m, rfl⟩ : ∃ k, m = k + 1 := ⟨m - 1, by omega⟩
      rw [fold, fold]
      cases hf : cs[a]? with
      | none => rfl
      | some c =>
        have same : c.map (fold leaf node cs n) = c.map (fold leaf node cs m) := by
          refine Node.map_congr fun w mem => ih ?_ ?_
          · exact (hso.founded hf w mem).mono (by omega)
          · exact (hso.founded hf w mem).mono (by omega)
        exact congrArg (node a) same
    | null | bool _ | num _ | str _ => rw [fold_leaf rfl, fold_leaf rfl]

theorem fold_ref (hso : cs.Sound) {a : Nat} {c : Node Val} (hf : cs[a]? = some c) :
    fold leaf node cs cs.length (.ref a) = node a (c.map (fold leaf node cs cs.length)) := by
  have inside : a < cs.length := (List.getElem?_eq_some_iff.mp hf).1
  obtain ⟨n, hs⟩ : ∃ n, cs.length = n + 1 := ⟨cs.length - 1, by omega⟩
  have below : ∀ v ∈ c.parts, v.Below n := fun v mem => (hso.founded hf v mem).mono (by omega)
  rw [hs, fold, hf]
  refine congrArg (node a) (Node.map_congr fun v mem => ?_)
  exact fold_stable hso (below v mem) ((below v mem).mono (Nat.le_succ n))

end Fold

def ofNode : Node Json → Json
  | .arr items => .arr items
  | .obj fields => .obj fields

def load (cells : Cells) (v : Val) : Json := fold Val.toJson (fun _ => ofNode) cells cells.length v

/-- The cells that value is made of, each as often as it is met. -/
def trace (cells : Cells) (v : Val) : List Nat :=
  fold (fun _ => []) (fun a n => a :: n.parts.flatten) cells cells.length v

variable {cs cells' : Cells} {v : Val}

theorem load_leaf (h : v.isLeaf = true) : load cs v = v.toJson := fold_leaf h _

theorem trace_leaf (h : v.isLeaf = true) : trace cs v = [] := fold_leaf h _

variable {a : Nat} {c : Node Val} {j : Json} {vs : List Val} {js : List Json}

theorem load_ref (hs : cs.Sound) (hf : cs[a]? = some c) :
    load cs (.ref a) = ofNode (c.map (load cs)) := fold_ref hs hf

theorem trace_ref (hs : cs.Sound) (hf : cs[a]? = some c) :
    trace cs (.ref a) = a :: (c.parts.map (trace cs)).flatten := by
  have all : trace cs (.ref a) = a :: (c.map (trace cs)).parts.flatten := fold_ref hs hf
  rw [all, Node.parts_map]

theorem value_induct (hs : cs.Sound) {motive : Val → Prop}
    (hl : ∀ v : Val, v.isLeaf = true → motive v)
    (ref : ∀ a c, cs[a]? = some c → (∀ v ∈ c.parts, motive v) → motive (.ref a)) (v : Val)
    (hi : v.Below cs.length) : motive v := by
  have all : ∀ n, ∀ v : Val, v.Below n → v.Below cs.length → motive v := by
    intro n
    induction n with
    | zero =>
      intro v low _
      cases v with
      | ref a => exact absurd (low a rfl) (Nat.not_lt_zero a)
      | null | bool _ | num _ | str _ => exact hl _ rfl
    | succ n ih =>
      intro v low hi
      cases v with
      | ref a =>
        obtain ⟨c, hf⟩ : ∃ c, cs[a]? = some c := ⟨_, getElem?_eq_getElem (hi a rfl)⟩
        refine ref a c hf fun w mem => ih w ?_ ?_
        · have := low a rfl
          exact (hs.founded hf w mem).mono (by omega)
        · exact (hs.founded hf w mem).mono (hi a rfl).le
      | null | bool _ | num _ | str _ => exact hl _ rfl
  exact all cs.length v hi hi

theorem trace_below (hs : cs.Sound) {bound : Nat} (low : v.Below bound) (hin : v.Below cs.length) :
    ∀ a ∈ trace cs v, a < bound := by
  revert bound
  refine value_induct hs (motive := fun v => ∀ {bound}, v.Below bound → ∀ a ∈ trace cs v, a < bound)
    ?_ ?_ v hin
  · intro v hi
    simp [trace_leaf hi]
  · intro a c hf ih bound low b mem
    rw [trace_ref hs hf, mem_cons, mem_flatten] at mem
    have hh := low a rfl
    rcases mem with rfl | ⟨_, ht, mem⟩
    · exact hh
    · obtain ⟨w, hp, rfl⟩ := mem_map.mp ht
      exact (ih w hp (hs.founded hf w hp) b mem).trans hh

theorem same_of_trace (hso : cs.Sound) (sound' : cells'.Sound) (hin : v.Below cs.length)
    (hs : ∀ a ∈ trace cs v, cells'[a]? = cs[a]?) :
    load cells' v = load cs v ∧ trace cells' v = trace cs v := by
  revert hs
  refine value_induct hso (motive := fun v => (∀ a ∈ trace cs v, cells'[a]? = cs[a]?) →
    load cells' v = load cs v ∧ trace cells' v = trace cs v) ?_ ?_ v hin
  · intro v hi
    simp [load_leaf hi, trace_leaf hi]
  · intro a c hf ih hs
    rw [trace_ref hso hf] at hs
    have found' : cells'[a]? = some c := by rw [hs a mem_cons_self, hf]
    have hpa : ∀ w ∈ c.parts, load cells' w = load cs w ∧ trace cells' w = trace cs w := by
      intro w hp
      refine ih w hp fun b mem => hs b (mem_cons_of_mem a ?_)
      exact mem_flatten.mpr ⟨_, mem_map_of_mem hp, mem⟩
    rw [load_ref hso hf, load_ref sound' found', trace_ref hso hf, trace_ref sound' found',
      Node.map_congr fun w hp => (hpa w hp).1, map_congr_left fun w hp => (hpa w hp).2]
    exact ⟨rfl, rfl⟩

theorem same_of_prefix (hs : cs.Sound) (sound' : cells'.Sound) (hm : cs <+: cells')
    (hi : v.Below cs.length) : load cells' v = load cs v ∧ trace cells' v = trace cs v := by
  refine same_of_trace hs sound' hi fun a mem => ?_
  obtain ⟨new, rfl⟩ := hm
  exact getElem?_append_left (trace_below hs hi hi a mem)

/- A new cell -/

theorem getElem?_push (cs : Cells) (c : Node Val) : (cs ++ [c])[cs.length]? = some c := by simp

theorem sound_push (hso : cs.Sound) (parts : ∀ v ∈ c.parts, v.Below cs.length)
    (hk : ∀ fs, c = .obj fs → (fs.map Prod.fst).Nodup) : Sound (cs ++ [c]) := by
  have cases : ∀ {a : Nat} {node : Node Val}, (cs ++ [c])[a]? = some node →
      cs[a]? = some node ∨ a = cs.length ∧ node = c := by
    intro a node hf
    rcases Nat.lt_trichotomy a cs.length with old | new | beyond
    · exact .inl (by rwa [getElem?_append_left old] at hf)
    · subst new
      rw [getElem?_push] at hf
      exact .inr ⟨rfl, (Option.some.inj hf).symm⟩
    · rw [getElem?_eq_none (by simp; omega)] at hf
      cases hf
  constructor
  · intro a node hf
    rcases cases hf with old | ⟨rfl, rfl⟩
    · exact hso.founded old
    · exact parts
  · intro a fs hf
    rcases cases hf with old | ⟨-, hs⟩
    · exact hso.keyed old
    · exact hk fs hs.symm

theorem load_push (hso : cs.Sound) (sound' : Sound (cs ++ [c]))
    (parts : ∀ v ∈ c.parts, v.Below cs.length) :
    load (cs ++ [c]) (.ref cs.length) = ofNode (c.map (load cs)) ∧
      trace (cs ++ [c]) (.ref cs.length) = cs.length :: (c.parts.map (trace cs)).flatten := by
  have same : ∀ v ∈ c.parts, load (cs ++ [c]) v = load cs v ∧ trace (cs ++ [c]) v = trace cs v :=
    fun v hp => same_of_prefix hso sound' (prefix_append cs [c]) (parts v hp)
  rw [load_ref sound' (getElem?_push cs c), trace_ref sound' (getElem?_push cs c),
    Node.map_congr fun v hp => (same v hp).1, map_congr_left fun v hp => (same v hp).2]
  exact ⟨rfl, rfl⟩

/- A new value -/

mutual
/-- What `JSON.parse` builds: the parts first, then the cell they belong to. -/
def alloc (cells : Cells) : Json → Cells × Val
  | .null => (cells, .null)
  | .bool b => (cells, .bool b)
  | .num n => (cells, .num n)
  | .str s => (cells, .str s)
  | .arr items =>
    let r := allocItems cells items
    (r.1 ++ [.arr r.2], .ref r.1.length)
  | .obj fields =>
    let r := allocFields cells fields
    (r.1 ++ [.obj r.2], .ref r.1.length)
def allocItems (cells : Cells) : List Json → Cells × List Val
  | [] => (cells, [])
  | v :: rest =>
    let r := alloc cells v
    let s := allocItems r.1 rest
    (s.1, r.2 :: s.2)
def allocFields (cells : Cells) : List (String × Json) → Cells × List (String × Val)
  | [] => (cells, [])
  | (key, v) :: rest =>
    let r := alloc cells v
    let s := allocFields r.1 rest
    (s.1, (key, r.2) :: s.2)
end

theorem allocFields_eq (cs : Cells) (fs : List (String × Json)) :
    (allocFields cs fs).1 = (allocItems cs (fs.map Prod.snd)).1 ∧
      (allocFields cs fs).2.map Prod.fst = fs.map Prod.fst ∧
      (allocFields cs fs).2.map Prod.snd = (allocItems cs (fs.map Prod.snd)).2 := by
  induction fs generalizing cs with
  | nil => simp [allocFields, allocItems]
  | cons e xs ih =>
    obtain ⟨key, v⟩ := e
    obtain ⟨x, hk, hv⟩ := ih (alloc cs v).1
    simp [allocFields, allocItems, x, hk, hv]

/-- Variables that hold new values: nothing of them is shared with the old cells or among them. -/
structure Fresh (cells cells' : Cells) (vs : List Val) (js : List Json) : Prop where
  sound : cells'.Sound
  more : cells <+: cells'
  inside : ∀ v ∈ vs, v.Below cells'.length
  loads : vs.map (load cells') = js
  new : ∀ a ∈ (vs.map (trace cells')).flatten, cells.length ≤ a
  once : (vs.map (trace cells')).flatten.Nodup

theorem fresh_nil (h : cs.Sound) : Fresh cs cs [] [] :=
  ⟨h, prefix_refl cs, nofun, rfl, nofun, nodup_nil⟩

theorem fresh_leaf (sound : cs.Sound) (hl : v.isLeaf = true) : Fresh cs cs [v] [v.toJson] where
  sound := sound
  more := prefix_refl cs
  inside := by simpa using Val.below_of_isLeaf hl cs.length
  loads := by simp [load_leaf hl]
  new := by simp [trace_leaf hl]
  once := by simp [trace_leaf hl]

theorem Fresh.cons {cells₁ cells₂ : Cells}
    (x : Fresh cs cells₁ [v] [j]) (hr : Fresh cells₁ cells₂ vs js) :
    Fresh cs cells₂ (v :: vs) (j :: js) := by
  have hb : v.Below cells₁.length := x.inside v mem_cons_self
  have loaded : load cells₁ v = j := by simpa using x.loads
  have traced : ∀ a ∈ trace cells₁ v, cs.length ≤ a := by simpa using x.new
  have ho : (trace cells₁ v).Nodup := by simpa using x.once
  obtain ⟨hl, ht⟩ := same_of_prefix x.sound hr.sound hr.more hb
  have longer := x.more.length_le
  have old := trace_below x.sound hb hb
  constructor
  · exact hr.sound
  · exact x.more.trans hr.more
  · intro w mem
    rcases mem_cons.mp mem with rfl | later
    · exact hb.mono hr.more.length_le
    · exact hr.inside w later
  · rw [map_cons, hl, loaded, hr.loads]
  · intro a mem
    rw [map_cons, ht, flatten_cons, mem_append] at mem
    exact mem.elim (traced a) fun later => longer.trans (hr.new a later)
  · rw [map_cons, ht, flatten_cons, nodup_append]
    refine ⟨ho, hr.once, fun a hh b hth => ?_⟩
    have := old a hh
    have := hr.new b hth
    omega

theorem Fresh.push (hf : Fresh cs cells' vs js)
    (hpa : c.parts = vs) (hk : ∀ fs, c = .obj fs → (fs.map Prod.fst).Nodup) :
    Fresh cs (cells' ++ [c]) [.ref cells'.length] [ofNode (c.map (load cells'))] := by
  have hi : ∀ v ∈ c.parts, v.Below cells'.length := hpa ▸ hf.inside
  have hs := sound_push hf.sound hi hk
  obtain ⟨hl, ht⟩ := load_push hf.sound hs hi
  rw [hpa] at ht
  have longer := hf.more.length_le
  constructor
  · exact hs
  · exact hf.more.trans (prefix_append cells' [c])
  · rintro _ (_ | ⟨_, ⟨⟩⟩) a hsa
    cases hsa
    simp
  · simp [hl]
  · intro a mem
    rw [map_singleton, ht, flatten_singleton, mem_cons] at mem
    rcases mem with rfl | mem
    · exact longer
    · exact hf.new a mem
  · rw [map_singleton, ht, flatten_singleton, nodup_cons]
    refine ⟨fun mem => ?_, hf.once⟩
    obtain ⟨_, hh, mem⟩ := mem_flatten.mp mem
    obtain ⟨v, hp, rfl⟩ := mem_map.mp hh
    exact lt_irrefl _ (trace_below hf.sound (hf.inside v hp) (hf.inside v hp) _ mem)

theorem fresh_allocItems {items : List Json}
    (he : ∀ v ∈ items, ∀ cells : Cells, cells.Sound →
      Fresh cells (alloc cells v).1 [(alloc cells v).2] [v]) (hs : cs.Sound) :
    Fresh cs (allocItems cs items).1 (allocItems cs items).2 items := by
  induction items generalizing cs with
  | nil =>
    rw [allocItems]
    exact fresh_nil hs
  | cons v rest ih =>
    have first := he v mem_cons_self cs hs
    have later := ih (fun w mem => he w (mem_cons_of_mem v mem)) first.sound
    rw [allocItems]
    exact first.cons later

theorem fresh_alloc (hke : j.Keyed) (hso : cs.Sound) :
    Fresh cs (alloc cs j).1 [(alloc cs j).2] [j] := by
  induction j generalizing cs with
  | null | bool b | num n | str s =>
    rw [alloc]
    exact fresh_leaf hso rfl
  | arr items ih =>
    cases hke with
    | arr all =>
      have hp := fresh_allocItems (fun v mem cells hso => ih v mem (all v mem) hso) hso
      have hw := hp.push (c := .arr (allocItems cs items).2) rfl nofun
      rw [Node.map, hp.loads, ofNode] at hw
      rw [alloc]
      exact hw
  | obj fields ih =>
    cases hke with
    | obj hn all =>
      obtain ⟨hs, hk, hva⟩ := allocFields_eq cs fields
      have each : ∀ v ∈ fields.map Prod.snd, ∀ cells : Cells, cells.Sound →
          Fresh cells (alloc cells v).1 [(alloc cells v).2] [v] := by
        intro v mem cells hso
        obtain ⟨e, hh, rfl⟩ := mem_map.mp mem
        exact ih e hh (all e hh) hso
      have hp := fresh_allocItems each hso
      rw [← hs, ← hva] at hp
      have hw := hp.push (c := .obj (allocFields cs fields).2) rfl (by
        rintro _ ⟨⟩
        rw [hk]
        exact hn)
      have read : (allocFields cs fields).2.map
          (fun e => (e.1, load (allocFields cs fields).1 e.2)) = fields := by
        have hl := hp.loads
        rw [map_map] at hl
        refine ext_getElem? fun i => ?_
        have key := congrArg (·[i]?) hk
        have hv := congrArg (·[i]?) hl
        simp only [getElem?_map] at key hv ⊢
        cases hh : (allocFields cs fields).2[i]? with
        | none =>
          cases ht : fields[i]? with
          | none => rfl
          | some e => simp [hh, ht] at key
        | some e =>
          cases ht : fields[i]? with
          | none => simp [hh, ht] at key
          | some e' =>
            simp only [hh, ht, Option.map_some, Option.some.injEq, Function.comp_apply] at key hv ⊢
            exact Prod.ext key hv
      rw [Node.map, read, ofNode] at hw
      rw [alloc]
      exact hw

end Cells

end DebugRouter.Library
