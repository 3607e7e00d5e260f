import DebugRouter.Library.ObjectHeap

/-!
Properties written in place. A write through one reference is seen through every other, so it
changes exactly one path of a value only if the value shares nothing: `Owns` says that of a
variable, and is kept by writes.
-/
namespace DebugRouter.Library.Cells

open List Option Cells

/- Reading and writing properties -/

def assignNode (key : String) (x : Val) : Node Val → Node Val
  | .obj fields => .obj (setEntry key x fields)
  | node => node

def assign (cells : Cells) (a : Nat) (key : String) (x : Val) : Cells :=
  cells.modify a (assignNode key x)

def getProp (cells : Cells) (v : Val) (key : String) : Option Val :=
  match v with
  | .ref a =>
    match cells[a]? with
    | some (.obj fields) => fields.lookup key
    | _ => none
  | _ => none

def walk (cells : Cells) : List String → Val → Option Val
  | [], v => some v
  | key :: path, v => (getProp cells v key).bind (walk cells path)

variable {cs : Cells} {v x : Val} {a : Nat} {key : String}

theorem getElem?_assign (cs : Cells) (a : Nat) (key : String) (x : Val) (b : Nat) :
    (assign cs a key x)[b]? = if a = b then (cs[b]?).map (assignNode key x) else cs[b]? := by
  unfold assign
  rw [getElem?_modify]
  split <;> simp

theorem length_assign (cs : Cells) (a : Nat) (key : String) (x : Val) :
    (assign cs a key x).length = cs.length := length_modify ..

theorem sound_assign (hso : cs.Sound) (hl : x.isLeaf = true) (a : Nat) (key : String) :
    Sound (assign cs a key x) := by
  constructor
  · intro b node hf v hp
    rw [getElem?_assign] at hf
    split at hf
    · obtain ⟨old, hh, rfl⟩ := map_eq_some_iff.mp hf
      cases old with
      | arr l => exact hso.founded hh v hp
      | obj fs =>
        obtain ⟨e, mem, rfl⟩ := mem_map.mp hp
        rcases mem_setEntry mem with rfl | mem
        · exact Val.below_of_isLeaf hl b
        · exact hso.founded hh e.2 (mem_map_of_mem mem)
    · exact hso.founded hf v hp
  · intro b fs hf
    rw [getElem?_assign] at hf
    split at hf
    · obtain ⟨old, hh, hs⟩ := map_eq_some_iff.mp hf
      cases old with
      | arr l => cases hs
      | obj old =>
        cases hs
        exact nodup_setEntry (hso.keyed hh)
    · exact hso.keyed hf

theorem get?_load (hs : cs.Sound) (hi : v.Below cs.length) (key : String) :
    (load cs v).get? key = (getProp cs v key).map (load cs) := by
  cases v with
  | ref a =>
    obtain ⟨c, hf⟩ : ∃ c, cs[a]? = some c := ⟨_, getElem?_eq_getElem (hi a rfl)⟩
    rw [load_ref hs hf, getProp, hf]
    cases c with
    | arr l => rfl
    | obj fs =>
      have named := lookupLast_map (load cs) key fs
      rw [lookupLast_eq_lookup (hs.keyed hf)] at named
      exact named
  | null | bool _ | num _ | str _ =>
    rw [load_leaf rfl]
    rfl

theorem getProp_part (h : getProp cs v key = some x) :
    ∃ a fs, v = .ref a ∧ cs[a]? = some (.obj fs) ∧ fs.lookup key = some x := by
  unfold getProp at h
  split at h
  next a =>
    split at h
    next fs hh => exact ⟨a, fs, rfl, hh, h⟩
    · cases h
  · cases h

theorem below_getProp (hs : cs.Sound) (hi : v.Below cs.length) (hf : getProp cs v key = some x) :
    x.Below cs.length := by
  obtain ⟨a, fs, rfl, hh, hf⟩ := getProp_part hf
  exact (hs.founded hh x (mem_map_of_mem (mem_of_lookup hf))).mono (hi a rfl).le

theorem below_walk (hs : cs.Sound) {p : List String} (hi : v.Below cs.length)
    (hf : walk cs p v = some x) : x.Below cs.length := by
  induction p generalizing v with
  | nil =>
    cases hf
    exact hi
  | cons key p ih =>
    obtain ⟨w, first, hr⟩ := bind_eq_some_iff.mp hf
    exact ih (below_getProp hs hi first) hr

theorem getProp_assign_of_ne (h : v ≠ .ref a ∨ k ≠ key) :
    getProp (assign cs a key x) v k = getProp cs v k := by
  cases v with
  | ref b =>
    rw [getProp, getProp, getElem?_assign]
    by_cases hs : a = b
    · subst hs
      have other : k ≠ key := h.resolve_left fun hd => hd rfl
      rw [if_pos rfl]
      cases cs[a]? with
      | none => rfl
      | some c =>
        cases c with
        | arr l => rfl
        | obj fs => exact (lookup_setEntry key x fs k).trans (if_neg other)
    · rw [if_neg hs]
  | null | bool _ | num _ | str _ => rfl

theorem walk_append (pre back : List String) (cs : Cells) (v : Val) :
    walk cs (pre ++ back) v = (walk cs pre v).bind (walk cs back) := by
  induction pre generalizing v with
  | nil => rfl
  | cons key pre ih =>
    rw [cons_append, walk, walk]
    cases getProp cs v key with
    | none => rfl
    | some w => exact ih w

theorem walk_assign_of_ne {p : List String} (h : key ∉ p) :
    walk (assign cs a key x) p v = walk cs p v := by
  induction p generalizing v with
  | nil => rfl
  | cons k p ih =>
    rw [mem_cons, not_or] at h
    rw [walk, walk, getProp_assign_of_ne (.inr fun hs => h.1 hs.symm)]
    cases getProp cs v k with
    | none => rfl
    | some w => exact ih h.2

variable {cells' : Cells} {w : Val}

theorem getProp_of_prefix (hm : cs <+: cells') (hi : v.Below cs.length) :
    getProp cells' v key = getProp cs v key := by
  cases v with
  | ref a =>
    obtain ⟨new, rfl⟩ := hm
    rw [getProp, getProp, getElem?_append_left (hi a rfl)]
  | null | bool _ | num _ | str _ => rfl

theorem walk_of_prefix (hs : cs.Sound) (hm : cs <+: cells') (hi : v.Below cs.length)
    (p : List String) : walk cells' p v = walk cs p v := by
  induction p generalizing v with
  | nil => rfl
  | cons key p ih =>
    rw [walk, walk, getProp_of_prefix hm hi]
    cases hf : getProp cs v key with
    | none => rfl
    | some w => exact ih (below_getProp hs hi hf)

/- A write in place, seen from the root of the value -/

theorem nodup_parts {c : Node Val} (hs : cs.Sound) (hf : cs[a]? = some c)
    (ho : (trace cs (.ref a)).Nodup) (hp : w ∈ c.parts) : (trace cs w).Nodup := by
  rw [trace_ref hs hf, nodup_cons, nodup_flatten] at ho
  exact ho.2.1 _ (mem_map_of_mem hp)

theorem mem_trace_walk (hs : cs.Sound) {p : List String} (hi : v.Below cs.length)
    (hf : walk cs p v = some (.ref a)) : a ∈ trace cs v := by
  induction p generalizing v with
  | nil =>
    cases hf
    obtain ⟨c, hh⟩ : ∃ c, cs[a]? = some c := ⟨_, getElem?_eq_getElem (hi a rfl)⟩
    rw [trace_ref hs hh]
    exact mem_cons_self
  | cons key p ih =>
    obtain ⟨w, first, hr⟩ := bind_eq_some_iff.mp hf
    have below := below_getProp hs hi first
    obtain ⟨b, fs, rfl, hh, hn⟩ := getProp_part first
    rw [trace_ref hs hh]
    refine mem_cons_of_mem b (mem_flatten.mpr ⟨_, mem_map_of_mem ?_, ih below hr⟩)
    exact mem_map_of_mem (mem_of_lookup hn)

theorem not_mem_trace_of_ne (hs : cs.Sound) {b : Nat} {fs : List (String × Val)}
    (hh : cs[b]? = some (.obj fs)) (ho : (trace cs (.ref b)).Nodup)
    (hn : fs.lookup key = some w) (hb : a ∈ trace cs w) {e : String × Val} (mem : e ∈ fs)
    (hap : e.1 ≠ key) : a ∉ trace cs e.2 := by
  rw [trace_ref hs hh, List.nodup_cons, List.nodup_flatten] at ho
  have hd := ho.2.2
  intro hal
  obtain ⟨i, hat⟩ := List.mem_iff_getElem?.mp mem
  obtain ⟨j, ha⟩ := List.mem_iff_getElem?.mp (mem_of_lookup hn)
  have differ : i ≠ j := by
    rintro rfl
    rw [hat] at ha
    cases ha
    exact hap rfl
  have ht : ((Node.obj fs).parts.map (trace cs))[i]? = some (trace cs e.2) := by
    simp [Node.parts, hat]
  have traced_j : ((Node.obj fs).parts.map (trace cs))[j]? = some (trace cs w) := by
    simp [Node.parts, ha]
  obtain ⟨hi_, hi⟩ := List.getElem?_eq_some_iff.mp ht
  obtain ⟨hj_, hj⟩ := List.getElem?_eq_some_iff.mp traced_j
  rcases Nat.lt_or_gt_of_ne differ with hl | more
  · have := List.pairwise_iff_getElem.mp hd i j hi_ hj_ hl
    rw [hi, hj] at this
    exact this hal hb
  · have := List.pairwise_iff_getElem.mp hd j i hj_ hi_ more
    rw [hi, hj] at this
    exact this hb hal

theorem load_assign_of_not_mem (hs : cs.Sound) (hl : x.isLeaf = true) (hi : v.Below cs.length)
    (ha : a ∉ trace cs v) :
    load (assign cs a key x) v = load cs v ∧ trace (assign cs a key x) v = trace cs v := by
  refine same_of_trace hs (sound_assign hs hl a key) hi fun b mem => ?_
  rw [getElem?_assign, if_neg]
  rintro rfl
  exact ha mem

theorem load_assign_here (hso : cs.Sound) (hl : x.isLeaf = true) (hi : a < cs.length) :
    load (assign cs a key x) (.ref a) = (load cs (.ref a)).setField key x.toJson := by
  have sound' := sound_assign hso hl a key
  obtain ⟨c, hh⟩ : ∃ c, cs[a]? = some c := ⟨_, List.getElem?_eq_getElem hi⟩
  have written : (assign cs a key x)[a]? = some (assignNode key x c) := by
    rw [getElem?_assign, if_pos rfl, hh, Option.map_some]
  have hp : ∀ w ∈ c.parts, load (assign cs a key x) w = load cs w := by
    intro w hpa
    have below := hso.founded hh w hpa
    have hw := below.mono hi.le
    refine (load_assign_of_not_mem hso hl hw fun mem => ?_).1
    exact lt_irrefl _ (trace_below hso below hw a mem)
  rw [load_ref sound' written, load_ref hso hh]
  cases c with
  | arr l => exact congrArg ofNode (Node.map_congr hp)
  | obj fs =>
    have hk : ((fs.map fun e => (e.1, load cs e.2)).map Prod.fst).Nodup := by
      rw [List.map_map]
      exact hso.keyed hh
    have same : fs.map (fun e => (e.1, load (assign cs a key x) e.2)) =
        fs.map (fun e => (e.1, load cs e.2)) :=
      List.map_congr_left fun e mem => by rw [hp e.2 (List.mem_map_of_mem mem)]
    simp only [assignNode, Node.map, ofNode]
    rw [map_setEntry, same, load_leaf hl, setField_obj hk]

theorem load_assign (hs : cs.Sound) (hl : x.isLeaf = true) {p : List String}
    (hi : v.Below cs.length) (hon : (trace cs v).Nodup) (hf : walk cs p v = some (.ref a)) :
    load (assign cs a key x) v = (load cs v).modifyAt p (·.setField key x.toJson) := by
  have sound' := sound_assign hs hl a key
  induction p generalizing v with
  | nil =>
    cases hf
    exact load_assign_here hs hl (hi a rfl)
  | cons k p ih =>
    obtain ⟨w, first, hre⟩ := Option.bind_eq_some_iff.mp hf
    have hb := below_getProp hs hi first
    have read := get?_load hs hi k
    obtain ⟨b, fs, rfl, hh, hn⟩ := getProp_part first
    have part : w ∈ (Node.obj fs).parts := List.mem_map_of_mem (mem_of_lookup hn)
    have hw := mem_trace_walk hs hb hre
    have apart : a ≠ b := by
      rintro rfl
      exact lt_irrefl _ (trace_below hs (hs.founded hh w part) hb a hw)
    have kept : (assign cs a key x)[b]? = some (.obj fs) := by rw [getElem?_assign, if_neg apart, hh]
    have hke : ((fs.map fun e => (e.1, load cs e.2)).map Prod.fst).Nodup := by
      rw [List.map_map]
      exact hs.keyed hh
    have others : ∀ e ∈ fs, e.1 ≠ k → load (assign cs a key x) e.2 = load cs e.2 := by
      intro e mem ho
      have old := hs.founded hh e.2 (List.mem_map_of_mem mem)
      exact (load_assign_of_not_mem hs hl (old.mono (hi b rfl).le)
        (not_mem_trace_of_ne hs hh hon hn hw mem ho)).1
    rw [first, Option.map_some] at read
    rw [Json.modifyAt, read, load_ref sound' kept, load_ref hs hh]
    simp only [Node.map, ofNode]
    rw [setField_obj hke, ← ih hb (nodup_parts hs hh hon part) hre,
      map_eq_setEntry (hs.keyed hh) hn others]

theorem trace_assign (hs : cs.Sound) (hl : x.isLeaf = true) (hi : v.Below cs.length) :
    (trace (assign cs a key x) v).Sublist (trace cs v) := by
  have sound' := sound_assign hs hl a key
  refine value_induct hs (motive := fun v => (trace (assign cs a key x) v).Sublist (trace cs v))
    ?_ ?_ v hi
  · intro v isLeaf
    simp [trace_leaf isLeaf]
  · intro b c hh ih
    have each : ∀ parts : List Val,
        (∀ w ∈ parts, (trace (assign cs a key x) w).Sublist (trace cs w)) →
        ((parts.map (trace (assign cs a key x))).flatten).Sublist (parts.map (trace cs)).flatten := by
      intro parts
      induction parts with
      | nil => simp
      | cons w parts ih =>
        intro all
        rw [map_cons, map_cons, flatten_cons, flatten_cons]
        exact (all w mem_cons_self).append (ih fun w mem => all w (mem_cons_of_mem _ mem))
    have hw : ∀ fs : List (String × Val),
        (((setEntry key x fs).map Prod.snd).map (trace (assign cs a key x))).flatten.Sublist
          ((fs.map Prod.snd).map (trace (assign cs a key x))).flatten := by
      intro fs
      induction fs with
      | nil => simp [setEntry, trace_leaf hl]
      | cons e fs ih =>
        rw [setEntry]
        split
        · simp [trace_leaf hl]
        · exact (List.Sublist.refl _).append ih
    have cell : (assign cs a key x)[b]? = some (if a = b then assignNode key x c else c) := by
      rw [getElem?_assign, hh]
      split <;> rfl
    rw [trace_ref sound' cell, trace_ref hs hh, cons_sublist_cons]
    refine List.Sublist.trans ?_ (each c.parts ih)
    split
    · cases c with
      | arr l => exact List.Sublist.refl _
      | obj fs => exact hw fs
    · exact List.Sublist.refl _

/- A value that belongs to nobody else -/

/-- The variable `v` holds the value `j`, made of cells that are newer than `base` and not shared;
the cells of `base` are as they were. -/
structure Owns (base cells : Cells) (v : Val) (j : Json) : Prop where
  sound : cells.Sound
  old : ∀ a < base.length, cells[a]? = base[a]?
  inside : v.Below cells.length
  loads : load cells v = j
  new : ∀ a ∈ trace cells v, base.length ≤ a
  once : (trace cells v).Nodup

variable {base : Cells} {j : Json}

theorem Fresh.owns (h : Fresh base cs [v] [j]) : Owns base cs v j where
  sound := h.sound
  old a low := by
    obtain ⟨more, rfl⟩ := h.more
    exact getElem?_append_left low
  inside := h.inside v mem_cons_self
  loads := by simpa using h.loads
  new := by simpa using h.new
  once := by simpa using h.once

theorem owns_alloc (hs : base.Sound) (hk : j.Keyed) : Owns base (alloc base j).1 (alloc base j).2 j :=
  (fresh_alloc hk hs).owns

theorem Owns.assign (ho : Owns base cs v j) (hl : x.isLeaf = true) {p : List String}
    (hf : walk cs p v = some (.ref a)) (key : String) :
    Owns base (assign cs a key x) v (j.modifyAt p (·.setField key x.toJson)) where
  sound := sound_assign ho.sound hl a key
  old b low := by
    have := ho.new a (mem_trace_walk ho.sound ho.inside hf)
    rw [getElem?_assign, if_neg (by omega)]
    exact ho.old b low
  inside := by
    rw [length_assign]
    exact ho.inside
  loads := by rw [load_assign ho.sound hl ho.inside ho.once hf, ho.loads]
  new b mem := ho.new b ((trace_assign ho.sound hl ho.inside).subset mem)
  once := (trace_assign ho.sound hl ho.inside).nodup ho.once

theorem Owns.frame (ho : Owns base cs v j) (hle : x.isLeaf = true) (hla : base.length ≤ a)
    (ha : a ∉ trace cs v) (key : String) : Owns base (Cells.assign cs a key x) v j := by
  obtain ⟨hl, ht⟩ : load (Cells.assign cs a key x) v = load cs v ∧
      trace (Cells.assign cs a key x) v = trace cs v :=
    load_assign_of_not_mem ho.sound hle ho.inside ha
  constructor
  · exact sound_assign ho.sound hle a key
  · intro b low
    rw [getElem?_assign, if_neg (by omega)]
    exact ho.old b low
  · rw [length_assign]
    exact ho.inside
  · rw [hl, ho.loads]
  · rw [ht]
    exact ho.new
  · rw [ht]
    exact ho.once

theorem Owns.alloc {j' : Json} (how : Owns base cs v j) (hk : j'.Keyed) :
    Owns base (alloc cs j').1 v j ∧ Owns base (Cells.alloc cs j').1 (Cells.alloc cs j').2 j' ∧
      trace (Cells.alloc cs j').1 v = trace cs v ∧
      ∀ a ∈ trace (Cells.alloc cs j').1 (Cells.alloc cs j').2, a ∉ trace cs v := by
  have hf := fresh_alloc hk how.sound
  have ho := hf.owns
  obtain ⟨hl, ht⟩ := same_of_prefix how.sound hf.sound hf.more how.inside
  have old : ∀ a < base.length, (Cells.alloc cs j').1[a]? = base[a]? := by
    intro a low
    have hh := how.old a low
    rw [List.getElem?_eq_getElem low] at hh
    rw [ho.old a (List.getElem?_eq_some_iff.mp hh).1, how.old a low]
  have long : base.length ≤ cs.length := by
    by_contra hs
    have hh := how.old cs.length (by omega)
    rw [List.getElem?_eq_none le_rfl, List.getElem?_eq_getElem (by omega)] at hh
    cases hh
  refine ⟨⟨hf.sound, old, how.inside.mono hf.more.length_le, ?_, ?_, ?_⟩,
    ⟨ho.sound, old, ho.inside, ho.loads, fun a mem => long.trans (ho.new a mem), ho.once⟩, ht, ?_⟩
  · rw [hl, how.loads]
  · rw [ht]
    exact how.new
  · rw [ht]
    exact how.once
  · intro a mem ha
    have := ho.new a mem
    have := trace_below how.sound how.inside how.inside a ha
    omega

end DebugRouter.Library.Cells
