import DebugRouter.Library.Runs
import Mathlib.Data.List.Nodup

/-!
`Tracker` of the hdc client, which turns lists of targets into events. It compares a list with the
stable targets of the last one, but looks for what has gone among all of them.
-/
namespace DebugRouter.Device

open Library List Option Function

structure Target where
  connectKey : String
  connStatus : String
  devName : String
  deriving DecidableEq

def Target.stable (t : Target) : Bool := t.devName ≠ "unknown..."

inductive TrackerEvent where
  | add (target : Target)
  | change (newTarget : Target) (oldTarget : Option Target)
  | remove (target : Target)
  deriving DecidableEq

def objectNames : List String :=
  ["constructor", "toString", "toLocaleString", "valueOf", "hasOwnProperty", "isPrototypeOf",
    "propertyIsEnumerable",
    "__proto__", "__defineGetter__", "__defineSetter__", "__lookupGetter__", "__lookupSetter__"]

/-- The `connStatus` of what a record of targets has under a key; a name that every object has leads
to something without one. -/
def statusAt (map : List Target) (key : String) : Option (Option String) :=
  match map.find? (·.connectKey = key) with
  | some t => some (some t.connStatus)
  | none => if key ∈ objectNames then some none else none

structure Tracker where
  targets : List Target := []
  targetMap : List Target := []
  emitted : List TrackerEvent := []

namespace Tracker

def newEvent (map : List Target) (t : Target) : List TrackerEvent :=
  match statusAt map t.connectKey with
  | none => [.add t]
  | some status =>
    if status ≠ some t.connStatus then [.change t (map.find? (·.connectKey = t.connectKey))] else []

def gone (newMap : List Target) (old : Target) : Bool :=
  match statusAt newMap old.connectKey with
  | none => true
  | some status => status = some "Offline" && old.connStatus = "Connected"

def update (s : Tracker) (newTargets : List Target) : Tracker :=
  let newMap := newTargets.filter Target.stable
  { targets := newTargets
    targetMap := newMap
    emitted := s.emitted ++ newMap.flatMap (newEvent s.targetMap) ++
      (s.targets.filter (gone newMap)).map .remove }

end Tracker

/- What the events say -/

abbrev Targets := String → Option String

/-- An event that can come next: `add` of what is not there, `change` and `remove` of what is. -/
def TrackerEvent.apply (r : Targets) : TrackerEvent → Option Targets
  | .add t => if r t.connectKey = none then some (update r t.connectKey (some t.connStatus)) else none
  | .change t _ =>
    if r t.connectKey = none then none else some (update r t.connectKey (some t.connStatus))
  | .remove t => if r t.connectKey = none then none else some (update r t.connectKey none)

def replayed (r : Targets) (events : List TrackerEvent) : Option Targets :=
  events.foldlM TrackerEvent.apply r

def listed (targets : List Target) : Targets := fun key =>
  (targets.find? (·.connectKey = key)).map Target.connStatus

namespace Tracker

/-- The events follow each other as they should, and say what is stable in the last list. -/
def Exact (s : Tracker) : Prop :=
  replayed (fun _ => none) s.emitted = some (listed (s.targets.filter Target.stable))

/-- Nothing is reported as removed but a stable target that is no longer among the stable ones. -/
def Tame (s : Tracker) (newTargets : List Target) : Prop :=
  (∀ t ∈ newTargets.filter Target.stable, t.connectKey ∉ objectNames) ∧
  ∀ old ∈ s.targets, gone (newTargets.filter Target.stable) old = true →
    old.stable = true ∧ listed (newTargets.filter Target.stable) old.connectKey = none

structure Kept (s : Tracker) : Prop where
  distinct : (s.targets.map Target.connectKey).Nodup
  map_eq : s.targetMap = s.targets.filter Target.stable
  plain : s.Exact → ∀ t ∈ s.targets.filter Target.stable, t.connectKey ∉ objectNames

variable {s : Tracker} {r : Targets} {map targets newTargets : List Target} {t : Target}
variable {key : String}

theorem statusAt_of_plain (h : key ∉ objectNames) : statusAt map key = (listed map key).map some := by
  unfold statusAt listed
  cases map.find? (·.connectKey = key) <;> simp [h]

theorem listed_eq_none : listed targets key = none ↔ ∀ t ∈ targets, t.connectKey ≠ key := by
  simp [listed]

theorem replayed_newEvent (hm : ∀ u ∈ map, u.connectKey ∉ objectNames)
    (hs : listed map t.connectKey = r t.connectKey) : replayed r (newEvent map t) =
      if t.connectKey ∉ objectNames then some (Function.update r t.connectKey (some t.connStatus))
      else none := by
  split
  next hp =>
    rw [newEvent, statusAt_of_plain hp, hs]
    cases hf : r t.connectKey with
    | none => simp [replayed, TrackerEvent.apply, hf]
    | some st =>
      simp only [Option.map_some]
      split
      · simp [replayed, TrackerEvent.apply, hf]
      next hu =>
        rw [ne_eq, not_not, Option.some.injEq] at hu
        rw [← hu, ← hf, Function.update_eq_self]
        rfl
  next hp =>
    rw [not_not] at hp
    have ha : listed map t.connectKey = none := listed_eq_none.mpr fun u hi eq => hm u hi (eq ▸ hp)
    have hf : map.find? (·.connectKey = t.connectKey) = none := Option.map_eq_none_iff.mp ha
    simp [newEvent, statusAt, hf, hp, replayed, TrackerEvent.apply, ← hs, ha]

theorem listed_cons :
    listed (t :: targets) key = if t.connectKey = key then some t.connStatus
      else listed targets key := by
  unfold listed
  rw [find?_cons]
  by_cases hs : t.connectKey = key <;> simp [hs]

theorem replayed_append (r : Targets) (pre back : List TrackerEvent) :
    replayed r (pre ++ back) = (replayed r pre).bind (replayed · back) :=
  foldlM_append

theorem ne_of_distinct (h : ((t :: targets).map Target.connectKey).Nodup) :
    (∀ u ∈ targets, u.connectKey ≠ t.connectKey) ∧ (targets.map Target.connectKey).Nodup := by
  obtain ⟨hf, hd⟩ := nodup_cons.mp h
  exact ⟨fun u ha eq => hf (eq ▸ mem_map_of_mem ha), hd⟩

theorem replayed_new (hd : (targets.map Target.connectKey).Nodup)
    (hm : ∀ u ∈ map, u.connectKey ∉ objectNames)
    (hs : ∀ t ∈ targets, listed map t.connectKey = r t.connectKey) :
    replayed r (targets.flatMap (newEvent map)) =
      if ∀ t ∈ targets, t.connectKey ∉ objectNames then some fun key =>
        (listed targets key).or (r key)
      else none := by
  induction targets generalizing r with
  | nil => rfl
  | cons t targets ih =>
    obtain ⟨ho, hd⟩ := ne_of_distinct hd
    obtain ⟨hsa, hs⟩ := forall_mem_cons.mp hs
    rw [flatMap_cons, replayed_append, replayed_newEvent hm hsa]
    by_cases hp : t.connectKey ∈ objectNames
    · simp [hp]
    rw [if_pos hp, bind_some, ih hd fun u ha => (hs u ha).trans (update_of_ne (ho u ha) ..).symm]
    refine if_congr (by simp [hp]) (congrArg some (funext fun key => ?_)) rfl
    rw [listed_cons, update_apply]
    by_cases eq : t.connectKey = key
    · have ha : listed targets key = none := listed_eq_none.mpr fun u hi => eq ▸ ho u hi
      simp [eq, ha]
    · simp [eq, Ne.symm eq]

theorem replayed_removed (hd : (targets.map Target.connectKey).Nodup) :
    replayed r (targets.map .remove) = if ∀ t ∈ targets, r t.connectKey ≠ none then
      some fun key => if key ∈ targets.map Target.connectKey then none else r key else none := by
  induction targets generalizing r with
  | nil => simp [replayed]
  | cons t targets ih =>
    obtain ⟨ho, hd⟩ := ne_of_distinct hd
    rw [map_cons, replayed, foldlM_cons, TrackerEvent.apply]
    by_cases x : r t.connectKey = none
    · simp [x]
    rw [if_neg x]
    refine (ih hd).trans (if_congr ?_ (congrArg some (funext fun key => ?_)) rfl)
    · simp only [forall_mem_cons, x, ne_eq, not_false_eq_true, true_and]
      exact forall₂_congr fun u ha => by rw [update_of_ne (ho u ha)]
    · rw [update_apply]
      by_cases eq : key = t.connectKey <;> simp [eq]

theorem distinct_filter (p : Target → Bool) (h : (targets.map Target.connectKey).Nodup) :
    ((targets.filter p).map Target.connectKey).Nodup :=
  h.sublist (filter_sublist.map _)

theorem removals_exact_iff (hd : (s.targets.map Target.connectKey).Nodup)
    (hp : ∀ t ∈ s.targets.filter Target.stable, t.connectKey ∉ objectNames) :
    replayed (fun key => (listed (newTargets.filter Target.stable) key).or
      (listed (s.targets.filter Target.stable) key))
        ((s.targets.filter (gone (newTargets.filter Target.stable))).map .remove) =
      some (listed (newTargets.filter Target.stable)) ↔
    ∀ old ∈ s.targets, gone (newTargets.filter Target.stable) old = true →
      old.stable = true ∧ listed (newTargets.filter Target.stable) old.connectKey = none := by
  rw [replayed_removed (distinct_filter _ hd)]
  constructor
  · intro he old hm hw
    have ha : old ∈ s.targets.filter (gone (newTargets.filter Target.stable)) :=
      mem_filter.mpr ⟨hm, hw⟩
    split at he
    next hr =>
      have hn := congrFun (some.inj he) old.connectKey
      rw [if_pos (mem_map_of_mem ha)] at hn
      have hl := hr old ha
      rw [← hn, none_or, Ne, listed_eq_none] at hl
      push Not at hl
      obtain ⟨u, hu, eq⟩ := hl
      obtain ⟨hi, hst⟩ := mem_filter.mp hu
      exact ⟨inj_on_of_nodup_map hd hi hm eq ▸ hst, hn.symm⟩
    · cases he
  · intro hr
    rw [if_pos]
    · refine congrArg some (funext fun key => ?_)
      split
      next hre =>
        obtain ⟨old, ha, rfl⟩ := mem_map.mp hre
        obtain ⟨hm, hw⟩ := mem_filter.mp ha
        exact (hr old hm hw).2.symm
      next hh =>
        cases now : listed (newTargets.filter Target.stable) key with
        | some st => rfl
        | none =>
          rw [none_or, listed_eq_none]
          rintro old ha rfl
          refine hh (mem_map.mpr ⟨old, mem_filter.mpr ⟨(mem_filter.mp ha).1, ?_⟩, rfl⟩)
          rw [gone, statusAt_of_plain (hp old ha), now]
          rfl
    · intro old ha hno
      obtain ⟨hm, hw⟩ := mem_filter.mp ha
      rw [(hr old hm hw).2, none_or, listed_eq_none] at hno
      exact hno old (mem_filter.mpr ⟨hm, (hr old hm hw).1⟩) rfl

theorem exact_update_iff (hk : s.Kept) (he : s.Exact)
    (hd : (newTargets.map Target.connectKey).Nodup) :
    (s.update newTargets).Exact ↔ s.Tame newTargets := by
  have hp := hk.plain he
  rw [Exact, Tracker.update, hk.map_eq, replayed_append, replayed_append, he, bind_some,
    replayed_new (distinct_filter Target.stable hd) hp fun _ _ => rfl]
  by_cases hn : ∀ t ∈ newTargets.filter Target.stable, t.connectKey ∉ objectNames
  · rw [if_pos hn, bind_some, removals_exact_iff hk.distinct hp]
    exact (and_iff_right hn).symm
  · rw [if_neg hn]
    exact iff_of_false nofun fun ht => hn ht.1

/-- The events are exact along a sequence of lists, exactly if every list is tame where it comes. -/
theorem tracker_events_exact_iff (polls : List (List Target))
    (distinct : ∀ poll ∈ polls, (poll.map Target.connectKey).Nodup) :
    Throughout update Exact {} polls ↔ Along update Tame {} polls := by
  have hi : Kept {} := ⟨nodup_nil, rfl, by simp⟩
  refine throughout_iff_along_of_allowed (fun s poll hd hk he => ?_)
    (fun s poll hd hk he => exact_update_iff hk he hd) distinct hi rfl
  exact ⟨hd, rfl, fun hu => ((exact_update_iff hk he hd).mp hu).1⟩

theorem plugged_target_exact : Throughout update Exact {} [[⟨"a", "Connected", "phone"⟩], []] :=
  (tracker_events_exact_iff _ (by decide)).mpr ⟨⟨by decide, nofun⟩, ⟨nofun, by decide⟩, trivial⟩

theorem untamed_removals :
    (([[⟨"a", "Connected", "phone"⟩], [⟨"a", "Offline", "phone"⟩]] : List (List Target)).foldl
      update {}).emitted =
      [.add ⟨"a", "Connected", "phone"⟩,
        .change ⟨"a", "Offline", "phone"⟩ (some ⟨"a", "Connected", "phone"⟩),
        .remove ⟨"a", "Connected", "phone"⟩] ∧
    (([[⟨"b", "Connected", "unknown..."⟩], []] : List (List Target)).foldl update {}).emitted =
      [.remove ⟨"b", "Connected", "unknown..."⟩] := by
  decide

end Tracker

end DebugRouter.Device
