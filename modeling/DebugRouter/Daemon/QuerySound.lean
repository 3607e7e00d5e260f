import DebugRouter.Daemon.QueryTable

/-!
What keeps the table of queries in order: every map object and every pending query has one place,
and live timers and pending queries that have a timer belong together.
-/
namespace DebugRouter.Daemon

open Library Option Function

namespace QueryTable

/-- Live timers and pending queries that have one belong together; every map and every query has one
place. -/
structure Sound (s : QueryTable) : Prop where
  maps_below : ∀ {c m}, s.pendingQueries.get? c = some m → m < s.nextMap
  maps_apart : ∀ {c c' m}, s.pendingQueries.get? c = some m → s.pendingQueries.get? c' = some m →
    c = c'
  maps_full : ∀ {c m}, s.pendingQueries.get? c = some m → (s.clientMaps m).size ≠ 0
  queries_below : ∀ {c ty o}, s.pendingAt c ty = some o → o < s.nextQuery
  queries_apart : ∀ {c ty c' ty' o}, s.pendingAt c ty = some o → s.pendingAt c' ty' = some o →
    c = c' ∧ ty = ty'
  timers_below : ∀ {id timer}, s.timers id = some timer → id < s.nextTimer
  timer_pending : ∀ {id timer}, s.timers id = some timer → ∃ o, timer.pendingQuery = some o ∧
    s.pendingAt timer.clientId timer.requestType = some o ∧ (s.queries o).timer = some id
  pending_timer : ∀ {c ty o id}, s.pendingAt c ty = some o → (s.queries o).timer = some id →
    ∃ timer, s.timers id = some timer ∧ timer.clientId = c ∧ timer.requestType = ty

theorem sound_new (definitions : List (String × String)) (validityPeriodMs : ℚ) (now : Nat) :
    (new definitions validityPeriodMs now).Sound where
  maps_below := nofun
  maps_apart := nofun
  maps_full := nofun
  queries_below := nofun
  queries_apart := nofun
  timers_below := nofun
  timer_pending := nofun
  pending_timer := nofun

variable {s s' s'' : QueryTable} {cid : Int} {requestType : String} {m o : Nat}

/- `clearPending` -/

theorem frame_clearRetryTimer (s : QueryTable) (o : Nat) :
    ∃ timers queries, s.clearRetryTimer o = { s with timers := timers, queries := queries } ∧
      (∀ id, timers id = if (s.queries o).timer = some id then none else s.timers id) ∧
      (∀ p, queries p = if p = o then { s.queries o with timer := none } else s.queries p) := by
  unfold clearRetryTimer
  cases set : (s.queries o).timer with
  | none =>
    refine ⟨s.timers, s.queries, rfl, fun id => by simp, fun p => ?_⟩
    split
    next hs => rw [hs, ← set]
    · rfl
  | some timer =>
    refine ⟨_, _, rfl, fun id => ?_, fun p => ?_⟩
    · rw [update_apply]
      by_cases hs : id = timer
      · simp [hs]
      · simp [hs, Ne.symm hs]
    · rw [update_apply]

structure Cleared (s s' : QueryTable) (clientId : Int) (requestType : String) (m o : Nat) : Prop where
  outer : s'.pendingQueries =
    if ((s.clientMaps m).delete requestType).size = 0 then s.pendingQueries.delete clientId
    else s.pendingQueries
  maps : s'.clientMaps = update s.clientMaps m ((s.clientMaps m).delete requestType)
  timers : ∀ id, s'.timers id = if (s.queries o).timer = some id then none else s.timers id
  queries : ∀ p, p ≠ o → s'.queries p = s.queries p
  nextMap : s'.nextMap = s.nextMap
  nextQuery : s'.nextQuery = s.nextQuery
  nextTimer : s'.nextTimer = s.nextTimer
  notifications : s'.notifications = s.notifications
  definitions : s'.definitions = s.definitions
  validityPeriodMs : s'.validityPeriodMs = s.validityPeriodMs
  now : s'.now = s.now

theorem cleared_clearPending (hou : s.pendingQueries.get? cid = some m)
    (hi : (s.clientMaps m).get? requestType = some o) :
    Cleared s (s.clearPending cid requestType) cid requestType m o := by
  obtain ⟨timers, queries, hs, ht, hq⟩ := frame_clearRetryTimer s o
  have ho : ∀ p, p ≠ o → queries p = s.queries p := fun p ha => by rw [hq, if_neg ha]
  unfold clearPending
  rw [hou]
  dsimp only
  rw [hi]
  dsimp only
  rw [hs]
  simp only [update_self]
  by_cases he : ((s.clientMaps m).delete requestType).size = 0
  · rw [if_pos he]
    exact ⟨(if_pos he).symm, rfl, ht, ho, rfl, rfl, rfl, rfl, rfl, rfl, rfl⟩
  · rw [if_neg he]
    exact ⟨(if_neg he).symm, rfl, ht, ho, rfl, rfl, rfl, rfl, rfl, rfl, rfl⟩

theorem clearPending_of_missing (h : s.pendingAt cid requestType = none) :
    s.clearPending cid requestType = s := by
  unfold clearPending
  cases ho : s.pendingQueries.get? cid with
  | none => rfl
  | some m =>
    rw [pendingAt, ho, bind_some] at h
    dsimp only
    rw [h]

theorem Cleared.pendingAt_eq (hso : s.Sound) (hou : s.pendingQueries.get? cid = some m)
    (hc : Cleared s s' cid requestType m o) (c : Int) (ty : String) :
    s'.pendingAt c ty = if c = cid ∧ ty = requestType then none else s.pendingAt c ty := by
  unfold pendingAt
  rw [hc.outer, hc.maps]
  by_cases own : c = cid
  · subst own
    have gone : ∀ ty, ((s.clientMaps m).delete requestType).get? ty =
        if ty = requestType then none else (s.clientMaps m).get? ty := fun ty => SlotMap.get?_delete
    split
    next he =>
      have none := SlotMap.size_eq_zero_iff.mp he ty
      rw [SlotMap.get?_delete, if_pos rfl, bind_none, hou, bind_some]
      rw [gone] at none
      simp [none]
    · rw [hou, bind_some, bind_some, update_self, gone]
      simp
  · have other : (if ((s.clientMaps m).delete requestType).size = 0 then s.pendingQueries.delete cid
        else s.pendingQueries).get? c = s.pendingQueries.get? c := by
      split
      · rw [SlotMap.get?_delete, if_neg own]
      · rfl
    rw [other, if_neg (fun hb => own hb.1)]
    cases hf : s.pendingQueries.get? c with
    | none => rfl
    | some m' =>
      have apart : m' ≠ m := fun hs => own (hso.maps_apart hf (hs ▸ hou))
      rw [bind_some, bind_some, update_of_ne apart]

variable {c : Int} {id : Nat} {timer : RetryTimer}

theorem Cleared.get?_outer (hc : Cleared s s' cid requestType m o) {m' : Nat}
    (hfo : s'.pendingQueries.get? c = some m') : s.pendingQueries.get? c = some m' ∧
      (c = cid → ((s.clientMaps m).delete requestType).size ≠ 0) := by
  rw [hc.outer] at hfo
  split at hfo
  · rw [SlotMap.get?_delete] at hfo
    split at hfo
    · cases hfo
    next ha => exact ⟨hfo, fun hs => absurd hs ha⟩
  next hf => exact ⟨hfo, fun _ => hf⟩

theorem Cleared.sound (hso : s.Sound) (hou : s.pendingQueries.get? cid = some m)
    (hi : (s.clientMaps m).get? requestType = some o) (hcl : Cleared s s' cid requestType m o) :
    s'.Sound := by
  have hp := hcl.pendingAt_eq hso hou
  have hh : s.pendingAt cid requestType = some o := by rw [pendingAt, hou, bind_some, hi]
  have hk : ∀ {c ty p}, s'.pendingAt c ty = some p → s.pendingAt c ty = some p ∧ p ≠ o := by
    intro c ty p hf
    rw [hp] at hf
    split at hf
    · cases hf
    next other => exact ⟨hf, fun hs => other (hso.queries_apart hf (hs ▸ hh))⟩
  have same : ∀ {c ty p}, s'.pendingAt c ty = some p → s'.queries p = s.queries p := by
    intro c ty p hf
    exact hcl.queries p (hk hf).2
  refine ⟨?_, ?_, ?_, ?_, ?_, ?_, ?_, ?_⟩
  · intro c m' hf
    rw [hcl.nextMap]
    exact hso.maps_below (hcl.get?_outer hf).1
  · intro c c' m' x hse
    exact hso.maps_apart (hcl.get?_outer x).1 (hcl.get?_outer hse).1
  · intro c m' hf
    obtain ⟨hb, hfu⟩ := hcl.get?_outer hf
    rw [hcl.maps]
    by_cases hs : m' = m
    · subst hs
      rw [update_self]
      exact hfu (hso.maps_apart hb hou)
    · rw [update_of_ne hs]
      exact hso.maps_full hb
  · intro c ty p hf
    rw [hcl.nextQuery]
    exact hso.queries_below (hk hf).1
  · intro c ty c' ty' p x hse
    exact hso.queries_apart (hk x).1 (hk hse).1
  · intro id timer hl
    rw [hcl.timers] at hl
    split at hl
    · cases hl
    · rw [hcl.nextTimer]
      exact hso.timers_below hl
  · intro id timer hl
    rw [hcl.timers] at hl
    split at hl
    · cases hl
    next hun =>
      obtain ⟨p, hc, hf, set⟩ := hso.timer_pending hl
      have apart : p ≠ o := fun hs => hun (hs ▸ set)
      have other : ¬ (timer.clientId = cid ∧ timer.requestType = requestType) := by
        rintro ⟨hsa, hhs⟩
        rw [hsa, hhs, hh] at hf
        exact apart (some.inj hf).symm
      refine ⟨p, hc, ?_, ?_⟩
      · rw [hp, if_neg other, hf]
      · rw [hcl.queries p apart, set]
  · intro c ty p id hf set
    rw [same hf] at set
    obtain ⟨timer, hl, hsa, hhs⟩ := hso.pending_timer (hk hf).1 set
    refine ⟨timer, ?_, hsa, hhs⟩
    rw [hcl.timers, if_neg]
    · exact hl
    · intro own
      obtain ⟨other, ht, ho, how⟩ := hso.pending_timer hh own
      cases hl.symm.trans ht
      rw [hp, if_pos ⟨hsa.symm.trans ho, hhs.symm.trans how⟩] at hf
      cases hf

/-- Only entries in `A` are dropped, each with its timer. -/
structure Drops (A : Int → String → Prop) (s s' : QueryTable) : Prop where
  sound : s'.Sound
  pending : ∀ c ty, s'.pendingAt c ty = s.pendingAt c ty ∨ A c ty ∧ s'.pendingAt c ty = none
  queries : ∀ {c ty o}, s'.pendingAt c ty = some o → s'.queries o = s.queries o
  timers : ∀ id, s'.timers id = s.timers id ∨
    ∃ timer, s.timers id = some timer ∧ A timer.clientId timer.requestType ∧ s'.timers id = none
  outer : s.pendingQueries.Holed s'.pendingQueries
  inner : ∀ m, (s.clientMaps m).Holed (s'.clientMaps m)
  notifications : s'.notifications = s.notifications
  definitions : s'.definitions = s.definitions
  validityPeriodMs : s'.validityPeriodMs = s.validityPeriodMs
  now : s'.now = s.now

variable {A B : Int → String → Prop}

theorem Drops.refl (sound : s.Sound) : Drops A s s where
  sound := sound
  pending := fun _ _ => .inl rfl
  queries := fun _ => rfl
  timers := fun _ => .inl rfl
  outer := .refl _
  inner := fun _ => .refl _
  notifications := rfl
  definitions := rfl
  validityPeriodMs := rfl
  now := rfl

theorem Drops.kept (hd : Drops A s s') {ty : String} (hf : s'.pendingAt c ty = some o) :
    s.pendingAt c ty = some o := by
  rcases hd.pending c ty with hs | ⟨-, hg⟩
  · rw [← hs, hf]
  · rw [hg] at hf
    cases hf

theorem Drops.trans (x : Drops A s s') (hse : Drops A s' s'') : Drops A s s'' where
  sound := hse.sound
  pending := fun c ty => by
    rcases hse.pending c ty with hs | gone
    · rw [hs]
      exact x.pending c ty
    · exact .inr gone
  queries := fun hf => (hse.queries hf).trans (x.queries (hse.kept hf))
  timers := fun id => by
    rcases hse.timers id with hs | ⟨timer, hl, hd, gone⟩
    · rw [hs]
      exact x.timers id
    · rcases x.timers id with hb | ⟨_, -, -, hm⟩
      · exact .inr ⟨timer, hb ▸ hl, hd, gone⟩
      · rw [hm] at hl
        cases hl
  outer := x.outer.trans hse.outer
  inner := fun m => (x.inner m).trans (hse.inner m)
  notifications := hse.notifications.trans x.notifications
  definitions := hse.definitions.trans x.definitions
  validityPeriodMs := hse.validityPeriodMs.trans x.validityPeriodMs
  now := hse.now.trans x.now

theorem Drops.mono (hdr : Drops A s s') (hw : ∀ c ty, A c ty → B c ty) : Drops B s s' where
  sound := hdr.sound
  pending := fun c ty => (hdr.pending c ty).imp_right fun hg => ⟨hw c ty hg.1, hg.2⟩
  queries := hdr.queries
  timers := fun id => (hdr.timers id).imp_right fun ⟨timer, hl, hd, hg⟩ => ⟨timer, hl, hw _ _ hd, hg⟩
  outer := hdr.outer
  inner := hdr.inner
  notifications := hdr.notifications
  definitions := hdr.definitions
  validityPeriodMs := hdr.validityPeriodMs
  now := hdr.now

theorem Cleared.drops (sound : s.Sound) (outer : s.pendingQueries.get? cid = some m)
    (inner : (s.clientMaps m).get? requestType = some o) (hc : Cleared s s' cid requestType m o) :
    Drops (fun c ty => c = cid ∧ ty = requestType) s s' where
  sound := hc.sound sound outer inner
  pending := fun c ty => by
    rw [hc.pendingAt_eq sound outer]
    split
    next own => exact .inr ⟨own, rfl⟩
    · exact .inl rfl
  queries := fun {c ty p} hf => by
    have hh : s.pendingAt cid requestType = some o := by rw [pendingAt, outer, bind_some, inner]
    rw [hc.pendingAt_eq sound outer] at hf
    split at hf
    · cases hf
    next ho =>
      have apart : p ≠ o := fun hs => ho (sound.queries_apart hf (hs ▸ hh))
      exact hc.queries p apart
  timers := fun id => by
    rw [hc.timers]
    split
    next set =>
      have hh : s.pendingAt cid requestType = some o := by rw [pendingAt, outer, bind_some, inner]
      obtain ⟨timer, hl, how, hho⟩ := sound.pending_timer hh set
      exact .inr ⟨timer, hl, ⟨how, hho⟩, rfl⟩
    · exact .inl rfl
  outer := by
    rw [hc.outer]
    split
    · exact SlotMap.holed_delete _ _
    · exact .refl _
  inner := fun m' => by
    rw [hc.maps, update_apply]
    split
    next hs =>
      rw [hs]
      exact SlotMap.holed_delete _ _
    · exact .refl _
  notifications := hc.notifications
  definitions := hc.definitions
  validityPeriodMs := hc.validityPeriodMs
  now := hc.now

theorem drops_clearPending (h : s.Sound) (cid : Int) (requestType : String) :
    Drops (fun c ty => c = cid ∧ ty = requestType) s (s.clearPending cid requestType) ∧
      (s.clearPending cid requestType).pendingAt cid requestType = none := by
  cases hh : s.pendingAt cid requestType with
  | none =>
    rw [clearPending_of_missing hh]
    exact ⟨.refl h, hh⟩
  | some o =>
    obtain ⟨m, ho, hi⟩ := bind_eq_some_iff.mp hh
    have hc := cleared_clearPending ho hi
    refine ⟨hc.drops h ho hi, ?_⟩
    rw [hc.pendingAt_eq h ho, if_pos ⟨rfl, rfl⟩]

/- Clearing while iterating -/

structure ClearedUpTo (s : QueryTable) (clientId : Int) (m i : Nat) (s' : QueryTable) : Prop where
  drops : Drops (fun c _ => c = clientId) s s'
  attached : (s'.clientMaps m).size ≠ 0 → s'.pendingQueries.get? clientId = some m
  holes : ∀ j < i, (s'.clientMaps m).slots[j]? = none ∨ (s'.clientMaps m).slots[j]? = some none

theorem drops_clearEach (hso : s.Sound) (ho : s.pendingQueries.get? cid = some m) :
    Drops (fun c _ => c = cid) s (s.clearEach cid m) ∧
      (s.clearEach cid m).pendingQueries.get? cid = none := by
  have start : ClearedUpTo s cid m 0 s := ⟨.refl hso, fun _ => ho, nofun⟩
  have hole : ∀ i s', ClearedUpTo s cid m i s' → (s'.clientMaps m).slots[i]? = some none →
      ClearedUpTo s cid m (i + 1) s' := by
    intro i s' hu hh
    refine ⟨hu.drops, hu.attached, fun j hb => ?_⟩
    rcases Nat.lt_succ_iff_lt_or_eq.mp hb with he | rfl
    · exact hu.holes j he
    · exact .inr hh
  have entry : ∀ i s' ty o, ClearedUpTo s cid m i s' →
      (s'.clientMaps m).slots[i]? = some (some (ty, o)) →
      ClearedUpTo s cid m (i + 1) (s'.clearPending cid ty) := by
    intro i s' ty o hu hh
    have hi := SlotMap.get?_of_slot hh
    have filled : (s'.clientMaps m).size ≠ 0 := by
      rw [Ne, SlotMap.size_eq_zero_iff]
      intro none
      rw [none] at hi
      cases hi
    have ho := hu.attached filled
    have hc := cleared_clearPending ho hi
    have hd := (hc.drops hu.drops.sound ho hi).mono (B := fun c _ => c = cid) fun _ _ own => own.1
    have map : (s'.clearPending cid ty).clientMaps m = (s'.clientMaps m).delete ty := by
      rw [hc.maps, update_self]
    refine ⟨hu.drops.trans hd, ?_, ?_⟩
    · intro hfu
      rw [map] at hfu
      rw [hc.outer, if_neg hfu, ho]
    · intro j hb
      rcases Nat.lt_succ_iff_lt_or_eq.mp hb with he | rfl
      · rcases hu.holes j he with none | hole
        · rcases (hd.inner m).slot j with hs | hole
          · exact .inl (hs.trans none)
          · exact .inr hole
        · exact .inr ((hd.inner m).stays hole)
      · refine .inr ((hd.inner m).punched hh ?_)
        rw [map, SlotMap.get?_delete, if_pos rfl]
  obtain ⟨j, hu, hsh⟩ := forEach_upholds (fun s : QueryTable => s.clientMaps m)
    (fun i s' hu => (hu.drops.inner m).length.le) hole entry start
  refine ⟨hu.drops, ?_⟩
  cases hf : (s.clearEach cid m).pendingQueries.get? cid with
  | none => rfl
  | some m' =>
    have before := hu.drops.outer.get? hf
    rw [ho] at before
    cases before
    have empty := SlotMap.size_eq_zero_iff.mpr (SlotMap.get?_of_holes hu.holes hsh)
    exact absurd empty (hu.drops.sound.maps_full hf)

structure AllClearedUpTo (s : QueryTable) (i : Nat) (s' : QueryTable) : Prop where
  drops : Drops (fun _ _ => True) s s'
  holes : ∀ j < i, s'.pendingQueries.slots[j]? = none ∨ s'.pendingQueries.slots[j]? = some none

theorem sound_notifications (h : s.Sound)
    (notes : OrderedMap Int (OrderedMap String MemoizedNotification)) :
    Sound { s with notifications := notes } :=
  ⟨h.maps_below, h.maps_apart, h.maps_full, h.queries_below, h.queries_apart, h.timers_below,
    h.timer_pending, h.pending_timer⟩

theorem drops_clearClient (h : s.Sound) (cid : Int) :
    Drops (fun c _ => c = cid) { s with notifications := s.notifications.delete cid }
      (s.clearClient cid) ∧
      (s.clearClient cid).pendingQueries.get? cid = none := by
  have start := sound_notifications h (s.notifications.delete cid)
  unfold clearClient
  dsimp only
  split
  next none => exact ⟨.refl start, none⟩
  next m ho => exact drops_clearEach start ho

theorem drops_clear (h : s.Sound) :
    Drops (fun _ _ => True) { s with notifications := .empty } s.clear ∧
      ∀ cid, s.clear.pendingQueries.get? cid = none := by
  have start := sound_notifications h .empty
  let s₀ : QueryTable := { s with notifications := .empty }
  have hole : ∀ i s', AllClearedUpTo s₀ i s' → s'.pendingQueries.slots[i]? = some none →
      AllClearedUpTo s₀ (i + 1) s' := by
    intro i s' hu hh
    refine ⟨hu.drops, fun j hb => ?_⟩
    rcases Nat.lt_succ_iff_lt_or_eq.mp hb with he | rfl
    · exact hu.holes j he
    · exact .inr hh
  have entry : ∀ i s' c m, AllClearedUpTo s₀ i s' → s'.pendingQueries.slots[i]? = some (some (c, m)) →
      AllClearedUpTo s₀ (i + 1) (s'.clearEach c m) := by
    intro i s' c m hu hh
    obtain ⟨hd, hg⟩ := drops_clearEach hu.drops.sound (SlotMap.get?_of_slot hh)
    refine ⟨hu.drops.trans (hd.mono fun _ _ _ => trivial), fun j hb => ?_⟩
    rcases Nat.lt_succ_iff_lt_or_eq.mp hb with he | rfl
    · rcases hu.holes j he with none | hole
      · rcases hd.outer.slot j with hs | hole
        · exact .inl (hs.trans none)
        · exact .inr hole
      · exact .inr (hd.outer.stays hole)
    · exact .inr (hd.outer.punched hh hg)
  obtain ⟨j, hu, hsh⟩ := forEach_upholds (fun s : QueryTable => s.pendingQueries) (s := s₀)
    (fun i s' hu => hu.drops.outer.length.le) hole entry ⟨.refl start, nofun⟩
  exact ⟨hu.drops, SlotMap.get?_of_holes hu.holes hsh⟩

theorem pendingAt_of_outer (h : s.pendingQueries.get? cid = none) (requestType : String) :
    s.pendingAt cid requestType = none := by
  rw [pendingAt, h, bind_none]

/- `markPending` -/

structure Marked (s s' : QueryTable) (clientId : Int) (requestType : String) : Prop where
  sound : s'.Sound
  pending : ∀ c ty, s'.pendingAt c ty =
    if c = clientId ∧ ty = requestType then some s.nextQuery else s.pendingAt c ty
  queries : s'.queries = update s.queries s.nextQuery ⟨s.now, none⟩
  timers : s'.timers = s.timers
  notifications : s'.notifications = s.notifications
  definitions : s'.definitions = s.definitions
  validityPeriodMs : s'.validityPeriodMs = s.validityPeriodMs
  now : s'.now = s.now

theorem clientMap_spec (h : s.Sound) (cid : Int) :
    ∃ pendingQueries clientMaps nextMap m,
      s.clientMap cid = ({ s with
        pendingQueries := pendingQueries, clientMaps := clientMaps, nextMap := nextMap }, m) ∧
      (∀ c, pendingQueries.get? c = if c = cid then some m else s.pendingQueries.get? c) ∧
      (∀ ty, (clientMaps m).get? ty = s.pendingAt cid ty) ∧
        (∀ m', m' ≠ m → clientMaps m' = s.clientMaps m') ∧
      m < nextMap ∧ s.nextMap ≤ nextMap ∧ ∀ c, c ≠ cid → s.pendingQueries.get? c ≠ some m := by
  unfold clientMap pendingAt
  cases hou : s.pendingQueries.get? cid with
  | some m =>
    refine ⟨_, _, _, m, rfl, ?_, fun ty => rfl, fun _ _ => rfl, h.maps_below hou, le_rfl, ?_⟩
    · intro c
      split
      next hs => rw [hs, hou]
      · rfl
    · exact fun c ha ho => ha (h.maps_apart ho hou)
  | none =>
    refine ⟨_, _, _, s.nextMap, rfl, fun c => SlotMap.get?_set _, ?_, ?_, Nat.lt_succ_self _,
      Nat.le_succ _, ?_⟩
    · intro ty
      rw [update_self]
      rfl
    · exact fun m' ha => update_of_ne ha _ _
    · exact fun c _ ho => absurd (h.maps_below ho) (lt_irrefl _)

theorem marked_markPending (hso : s.Sound) (hmi : s.pendingAt cid requestType = none) :
    Marked s (s.markPending cid requestType) cid requestType := by
  obtain ⟨pendingQueries, clientMaps, nextMap, m, hm, hou, own, hot, hb, hg, hap⟩ :=
    clientMap_spec hso cid
  have hr : s.markPending cid requestType =
      { s with
          pendingQueries := pendingQueries
          clientMaps := update clientMaps m ((clientMaps m).set requestType s.nextQuery)
          nextMap := nextMap
          queries := update s.queries s.nextQuery ⟨s.now, none⟩
          nextQuery := s.nextQuery + 1 } := by
    rw [markPending, hm]
  have hp : ∀ c ty, (s.markPending cid requestType).pendingAt c ty =
      if c = cid ∧ ty = requestType then some s.nextQuery else s.pendingAt c ty := by
    intro c ty
    rw [hr, pendingAt]
    dsimp only
    rw [hou]
    by_cases hs : c = cid
    · subst hs
      rw [if_pos rfl, bind_some, update_self, SlotMap.get?_set, own]
      simp
    · rw [if_neg hs, if_neg (fun hbo => hs hbo.1), pendingAt]
      cases hf : s.pendingQueries.get? c with
      | none => rfl
      | some m' =>
        have ho : m' ≠ m := fun eq => hap c hs (eq ▸ hf)
        rw [bind_some, bind_some, update_of_ne ho, hot m' ho]
  refine ⟨?_, hp, by rw [hr], by rw [hr], by rw [hr], by rw [hr], by rw [hr], by rw [hr]⟩
  have old : ∀ {c ty o}, (s.markPending cid requestType).pendingAt c ty = some o →
      ¬ (c = cid ∧ ty = requestType) →
      s.pendingAt c ty = some o := by
    intro c ty o hf ho
    rwa [hp, if_neg ho] at hf
  have fresh : ∀ {c ty o}, (s.markPending cid requestType).pendingAt c ty = some o →
      (c = cid ∧ ty = requestType) →
      o = s.nextQuery := by
    intro c ty o hf hs
    rw [hp, if_pos hs] at hf
    exact (some.inj hf).symm
  have kept : ∀ {c ty o}, s.pendingAt c ty = some o →
      (s.markPending cid requestType).queries o = s.queries o := by
    intro c ty o hf
    rw [hr]
    exact update_of_ne (hso.queries_below hf).ne _ _
  refine ⟨?_, ?_, ?_, ?_, ?_, ?_, ?_, ?_⟩
  · intro c m' hf
    rw [hr] at hf ⊢
    rw [hou] at hf
    split at hf
    · cases hf
      exact hb
    · exact (hso.maps_below hf).trans_le hg
  · intro c c' m' x hse
    rw [hr] at x hse
    rw [hou] at x hse
    split at x
    next own =>
      cases x
      split at hse
      next ha => exact own.trans ha.symm
      next ho => exact absurd hse (hap c' ho)
    next ho =>
      split at hse
      · cases hse
        exact absurd x (hap c ho)
      · exact hso.maps_apart x hse
  · intro c m' hf
    rw [hr] at hf ⊢
    rw [hou] at hf
    dsimp only
    split at hf
    · cases hf
      rw [update_self, Ne, SlotMap.size_eq_zero_iff]
      intro none
      have hh := none requestType
      rw [SlotMap.get?_set, if_pos rfl] at hh
      cases hh
    next ho =>
      have apart : m' ≠ m := fun eq => hap c ho (eq ▸ hf)
      rw [update_of_ne apart, hot m' apart]
      exact hso.maps_full hf
  · intro c ty o hf
    rw [show (s.markPending cid requestType).nextQuery = s.nextQuery + 1 by rw [hr]]
    by_cases hs : c = cid ∧ ty = requestType
    · rw [fresh hf hs]
      exact Nat.lt_succ_self _
    · exact (hso.queries_below (old hf hs)).trans (Nat.lt_succ_self _)
  · intro c ty c' ty' o x hse
    by_cases hs : c = cid ∧ ty = requestType
    · by_cases ha : c' = cid ∧ ty' = requestType
      · exact ⟨hs.1.trans ha.1.symm, hs.2.trans ha.2.symm⟩
      · have hb := hso.queries_below (old hse ha)
        rw [fresh x hs] at hb
        exact absurd hb (lt_irrefl _)
    · by_cases ha : c' = cid ∧ ty' = requestType
      · have hb := hso.queries_below (old x hs)
        rw [fresh hse ha] at hb
        exact absurd hb (lt_irrefl _)
      · exact hso.queries_apart (old x hs) (old hse ha)
  · intro id timer hl
    rw [hr] at hl ⊢
    exact hso.timers_below hl
  · intro id timer hl
    rw [hr] at hl
    obtain ⟨o, hc, hf, set⟩ := hso.timer_pending hl
    refine ⟨o, hc, ?_, ?_⟩
    · rw [hp, if_neg, hf]
      rintro ⟨hsa, hhs⟩
      rw [hsa, hhs, hmi] at hf
      cases hf
    · rw [kept hf, set]
  · intro c ty o id hf set
    by_cases hs : c = cid ∧ ty = requestType
    · rw [fresh hf hs, hr] at set
      dsimp only at set
      rw [update_self] at set
      cases set
    · have before := old hf hs
      rw [kept before] at set
      rw [hr]
      exact hso.pending_timer before set

/- Timers -/

structure Armed (s s' : QueryTable) (clientId : Int) (requestType : String) (o : Nat)
    (retry : Json) : Prop where
  outer : s'.pendingQueries = s.pendingQueries
  maps : s'.clientMaps = s.clientMaps
  timers : ∀ id, s'.timers id = if id = s.nextTimer then some ⟨clientId, requestType, some o, retry⟩
    else if (s.queries o).timer = some id then none else s.timers id
  timer : (s'.queries o).timer = some s.nextTimer
  queries : ∀ p, p ≠ o → s'.queries p = s.queries p
  nextMap : s'.nextMap = s.nextMap
  nextQuery : s'.nextQuery = s.nextQuery
  nextTimer : s'.nextTimer = s.nextTimer + 1
  notifications : s'.notifications = s.notifications
  definitions : s'.definitions = s.definitions
  validityPeriodMs : s'.validityPeriodMs = s.validityPeriodMs
  now : s'.now = s.now

variable {retry : Json}

theorem Armed.pendingAt_eq (h : Armed s s' cid requestType o retry) (c : Int) (ty : String) :
    s'.pendingAt c ty = s.pendingAt c ty := by
  rw [pendingAt, pendingAt, h.outer, h.maps]

theorem Armed.sound (hso : s.Sound) (hh : s.pendingAt cid requestType = some o)
    (har : Armed s s' cid requestType o retry) : s'.Sound := by
  have ht := har.timers
  refine ⟨?_, ?_, ?_, ?_, ?_, ?_, ?_, ?_⟩
  · intro c m hf
    rw [har.outer] at hf
    rw [har.nextMap]
    exact hso.maps_below hf
  · intro c c' m x hse
    rw [har.outer] at x hse
    exact hso.maps_apart x hse
  · intro c m hf
    rw [har.outer] at hf
    rw [har.maps]
    exact hso.maps_full hf
  · intro c ty p hf
    rw [har.pendingAt_eq] at hf
    rw [har.nextQuery]
    exact hso.queries_below hf
  · intro c ty c' ty' p x hse
    rw [har.pendingAt_eq] at x hse
    exact hso.queries_apart x hse
  · intro id timer hl
    rw [har.nextTimer]
    rw [ht] at hl
    split at hl
    next new => omega
    · split at hl
      · cases hl
      · exact (hso.timers_below hl).trans (Nat.lt_succ_self _)
  · intro id timer hl
    rw [ht] at hl
    split at hl
    next new =>
      cases hl
      refine ⟨o, rfl, ?_, ?_⟩
      · rw [har.pendingAt_eq, hh]
      · rw [har.timer, new]
    · split at hl
      · cases hl
      next other =>
        obtain ⟨p, hc, hf, set⟩ := hso.timer_pending hl
        have apart : p ≠ o := fun hs => other (hs ▸ set)
        refine ⟨p, hc, ?_, ?_⟩
        · rw [har.pendingAt_eq, hf]
        · rw [har.queries p apart, set]
  · intro c ty p id hf set
    rw [har.pendingAt_eq] at hf
    by_cases hs : p = o
    · subst hs
      obtain ⟨rfl, rfl⟩ := hso.queries_apart hf hh
      rw [har.timer] at set
      cases set
      exact ⟨_, (ht _).trans (if_pos rfl), rfl, rfl⟩
    · rw [har.queries p hs] at set
      obtain ⟨timer, hl, hsa, hhs⟩ := hso.pending_timer hf set
      refine ⟨timer, ?_, hsa, hhs⟩
      rw [ht, if_neg (hso.timers_below hl).ne, if_neg]
      · exact hl
      · intro own
        obtain ⟨other, hth, ho, how⟩ := hso.pending_timer hh own
        cases hl.symm.trans hth
        rw [← hsa, ← hhs, ho, how, hh] at hf
        exact hs (some.inj hf).symm

theorem armed_setRetryTimer (hh : s.pendingAt cid requestType = some o)
    (hu : (s.queries o).timer = none)
    (retry : Json) : Armed s (s.setRetryTimer cid requestType retry) cid requestType o retry ∧
      ((s.setRetryTimer cid requestType retry).queries o).sentAt = (s.queries o).sentAt := by
  obtain ⟨m, ho, hi⟩ := bind_eq_some_iff.mp hh
  have result : s.setRetryTimer cid requestType retry =
      (s.createRetryTimer cid requestType (some o) retry).1.setTimer o s.nextTimer := by
    rw [setRetryTimer, ho]
    dsimp only
    rw [hi]
    rfl
  rw [result]
  refine ⟨⟨rfl, rfl, fun id => ?_, ?_, ?_, rfl, rfl, rfl, rfl, rfl, rfl, rfl⟩, ?_⟩
  · rw [hu, if_neg (by simp : ¬ none = some id)]
    exact update_apply ..
  · simp [setTimer]
  · exact fun p ha => update_of_ne ha _ _
  · simp [setTimer, createRetryTimer]

theorem armed_onRetryTimer (hso : s.Sound) (hl : s.timers id = some timer) :
    ∃ o, s.pendingAt timer.clientId timer.requestType = some o ∧
      Armed s (s.onRetryTimer id true) timer.clientId timer.requestType o timer.retry ∧
      ((s.onRetryTimer id true).queries o).sentAt = s.now := by
  obtain ⟨o, hc, hf, set⟩ := hso.timer_pending hl
  obtain ⟨cid, requestType, pendingQuery, retry⟩ := timer
  cases hc
  have result : s.onRetryTimer id true =
      { s with
          timers := update (update s.timers id none) s.nextTimer
            (some ⟨cid, requestType, some o, retry⟩)
          nextTimer := s.nextTimer + 1
          queries := update s.queries o ⟨s.now, some s.nextTimer⟩ } := by
    simp [onRetryTimer, hl, createRetryTimer, setTimer]
  rw [result]
  refine ⟨o, hf, ⟨rfl, rfl, fun other => ?_, ?_, ?_, rfl, rfl, rfl, rfl, rfl, rfl, rfl⟩, ?_⟩
  · rw [set]
    by_cases hs : other = id
    · simp [update_apply, hs]
    · simp [update_apply, hs, Ne.symm hs]
  · simp
  · exact fun p ha => update_of_ne ha _ _
  · simp

theorem cleared_onRetryTimer (hso : s.Sound) (hl : s.timers id = some timer) :
    ∃ m o, s.pendingQueries.get? timer.clientId = some m ∧
    (s.clientMaps m).get? timer.requestType = some o ∧
      Cleared s (s.onRetryTimer id false) timer.clientId timer.requestType m o := by
  obtain ⟨o, hca, hf, set⟩ := hso.timer_pending hl
  obtain ⟨m, ho, hi⟩ := bind_eq_some_iff.mp hf
  refine ⟨m, o, ho, hi, ?_⟩
  obtain ⟨cid, requestType, pendingQuery, retry⟩ := timer
  cases hca
  let fired : QueryTable := { s with
    timers := update s.timers id none
    queries := update s.queries o { s.queries o with sentAt := s.now } }
  have result : s.onRetryTimer id false = fired.clearPending cid requestType := by
    unfold onRetryTimer
    rw [hl]
    rfl
  have hc : Cleared fired (fired.clearPending cid requestType) cid requestType m o :=
    cleared_clearPending ho hi
  rw [result]
  refine ⟨hc.outer, hc.maps, ?_, ?_, hc.nextMap, hc.nextQuery, hc.nextTimer,
    hc.notifications, hc.definitions, hc.validityPeriodMs, hc.now⟩
  · intro other
    have still : (fired.queries o).timer = some id := by
      change (update s.queries o _ o).timer = some id
      rw [update_self]
      exact set
    rw [hc.timers, still, set]
    change (if some id = some other then none else update s.timers id none other) = _
    rw [update_apply]
    split
    · rfl
    next ha =>
      rw [if_neg]
      exact fun hs => ha (congrArg some hs.symm)
  · intro p ha
    exact (hc.queries p ha).trans (update_of_ne ha _ _)

end QueryTable

end DebugRouter.Daemon
