import DebugRouter.Daemon.QuerySound
import DebugRouter.Library.Runs

/-!
The table of queries over whole runs. What has happened says since when a query is out and what the
last notification was; the table's maps, objects and timers say the same.
-/
namespace DebugRouter.Daemon

open Library List Option OrderedMap MemoizedQueryTable QueryTable

inductive QueryEvent where
  | forwarded (clientId : Int) (requestType : String) (time : Nat)
  | retried (clientId : Int) (requestType : String) (time : Nat)
  | failed (clientId : Int) (requestType : String)
  | notified (clientId : Int) (notificationType requestType : String)
      (notification : MemoizedNotification)
  | clientCleared (clientId : Int)
  | cleared

namespace QueryEvent

/-- A forward and a retry that was sent begin the wait for a query anew; its notification, a failed
send or retry and a clear end it. -/
def since (clientId : Int) (requestType : String) (before : Option Nat) : QueryEvent → Option Nat
  | forwarded c ty time | retried c ty time =>
    if c = clientId ∧ ty = requestType then some time else before
  | failed c ty | notified c _ ty _ => if c = clientId ∧ ty = requestType then none else before
  | clientCleared c => if c = clientId then none else before
  | cleared => none

def last (clientId : Int) (notificationType : String) (before : Option MemoizedNotification) :
    QueryEvent → Option MemoizedNotification
  | notified c ty _ notification =>
    if c = clientId ∧ ty = notificationType then some notification else before
  | clientCleared c => if c = clientId then none else before
  | cleared => none
  | forwarded .. | retried .. | failed .. => before

end QueryEvent

namespace QueryTable

def events (s : QueryTable) : QueryAct → List QueryEvent
  | .query clientId message =>
    match (s.query clientId message).2 with
    | .forward requestType => [.forwarded clientId requestType s.now]
    | _ => []
  | .recordNotification clientId message parsedValue =>
    match s.requestTypeOf (getCustomizedType parsedValue) with
    | some (notificationType, requestType) =>
      [.notified clientId notificationType requestType ⟨message, parsedValue, s.now⟩]
    | none => []
  | .handleSendFailure clientId requestType => [.failed clientId requestType]
  | .clearClient clientId => [.clientCleared clientId]
  | .clear => [.cleared]
  | .fire timer retried =>
    match s.timers timer with
    | some timer =>
      [if retried then .retried timer.clientId timer.requestType s.now
        else .failed timer.clientId timer.requestType]
    | none => []
  | .setRetryTimer .. | .tick _ => []

def history : QueryTable → List QueryAct → List QueryEvent
  | _, [] => []
  | s, act :: rest => s.events act ++ history (s.step act) rest

def outstanding (clientId : Int) (requestType : String) (past : List QueryEvent) : Option Nat :=
  past.foldl (QueryEvent.since clientId requestType) none

def lastNotification (clientId : Int) (notificationType : String) (past : List QueryEvent) :
    Option MemoizedNotification :=
  past.foldl (QueryEvent.last clientId notificationType) none

def AfterForward (s : QueryTable) : QueryAct → Prop
  | .setRetryTimer clientId requestType _ =>
    ∃ o, s.pendingAt clientId requestType = some o ∧ (s.queries o).timer = none
  | _ => True

def openSince (s : QueryTable) (clientId : Int) (requestType : String) : Option Nat :=
  (s.pendingAt clientId requestType).map fun o => (s.queries o).sentAt

structure Follows (s s' : QueryTable) (events : List QueryEvent) : Prop where
  sound : s'.Sound
  since : ∀ c ty, s'.openSince c ty = events.foldl (QueryEvent.since c ty) (s.openSince c ty)
  last : ∀ c ty, s'.notificationAt c ty = events.foldl (QueryEvent.last c ty) (s.notificationAt c ty)
  definitions : s'.definitions = s.definitions
  validityPeriodMs : s'.validityPeriodMs = s.validityPeriodMs
  now : s.now ≤ s'.now

variable {s s' : QueryTable} {cid : Int} {requestType : String}

theorem Follows.refl (h : s.Sound) : Follows s s [] :=
  ⟨h, fun _ _ => rfl, fun _ _ => rfl, rfl, rfl, le_rfl⟩

section Drops
variable {A : Int → String → Prop}
variable {c : Int} {ty : String}

theorem Drops.openSince_kept (hd : Drops A s s') (ho : ¬ A c ty) :
    s'.openSince c ty = s.openSince c ty := by
  have same : s'.pendingAt c ty = s.pendingAt c ty :=
    (hd.pending c ty).resolve_right fun hg => ho hg.1
  unfold openSince
  cases hf : s'.pendingAt c ty with
  | none => rw [← same, hf, map_none, map_none]
  | some o => rw [← same, hf, map_some, map_some, hd.queries hf]

theorem openSince_of_gone (h : s.pendingAt c ty = none) : s.openSince c ty = none := by
  rw [openSince, h, map_none]

theorem Drops.notificationAt (h : Drops A s s') (c : Int) (ty : String) :
    s'.notificationAt c ty = s.notificationAt c ty := by
  unfold QueryTable.notificationAt
  rw [h.notifications]

end Drops

theorem Marked.openSince_eq (hm : Marked s s' cid requestType) (hso : s.Sound) (c : Int)
    (ty : String) :
    s'.openSince c ty = if cid = c ∧ requestType = ty then some s.now else s.openSince c ty := by
  unfold openSince
  rw [hm.pending, hm.queries]
  by_cases hs : c = cid ∧ ty = requestType
  · rw [if_pos hs, if_pos ⟨hs.1.symm, hs.2.symm⟩, map_some, Function.update_self]
  · rw [if_neg hs, if_neg fun hb => hs ⟨hb.1.symm, hb.2.symm⟩]
    cases hf : s.pendingAt c ty with
    | none => rfl
    | some o => rw [map_some, map_some, Function.update_of_ne (hso.queries_below hf).ne]

/-- `query` answers from the cache, joins a query that is out, or forwards. -/
inductive Asked (s : QueryTable) (clientId : Int) (message : Json) :
    QueryTable × MemoizedQueryDecision → Prop
  | notMemoized : Asked s clientId message (s, .notMemoized)
  | cached {requestType notificationType : String} {notification : MemoizedNotification}
      (type : s.notificationTypeOf (getCustomizedType message) = some (requestType, notificationType))
      (found : s.notificationAt clientId notificationType = some notification)
      (fresh : s.expired notification.receivedAt = false) :
      Asked s clientId message (s, .cached notification.message notification.parsedValue)
  | pending {requestType notificationType : String} {since : Nat}
      (type : s.notificationTypeOf (getCustomizedType message) = some (requestType, notificationType))
      (out : s.openSince clientId requestType = some since) (fresh : s.expired since = false) :
      Asked s clientId message (s, .pending)
  | forward {requestType notificationType : String}
      (type : s.notificationTypeOf (getCustomizedType message) = some (requestType, notificationType))
      (idle : ∀ since, s.openSince clientId requestType = some since → s.expired since = true) :
      Asked s clientId message
        ((s.clearPending clientId requestType).markPending clientId requestType, .forward requestType)

theorem asked_query (s : QueryTable) (cid : Int) (msg : Json) :
    Asked s cid msg (s.query cid msg) := by
  unfold query
  split
  · exact .notMemoized
  next requestType nty ht =>
    split
    next cached hf =>
      obtain ⟨hh, hfr⟩ := filter_eq_some_iff.mp hf
      exact .cached ht hh (by simpa using hfr)
    · cases hh : s.pendingAt cid requestType with
      | none =>
        have idle : ∀ since, s.openSince cid requestType = some since → s.expired since = true := by
          intro since out
          rw [openSince_of_gone hh] at out
          cases out
        have asked : Asked s cid msg _ := .forward ht idle
        rw [clearPending_of_missing hh] at asked
        simp only [isPending, hh]
        exact asked
      | some o =>
        have out : s.openSince cid requestType = some (s.queries o).sentAt := by
          rw [openSince, hh, map_some]
        cases he : s.expired (s.queries o).sentAt with
        | true =>
          simp only [isPending, hh, he, if_true]
          refine .forward ht fun since ha => ?_
          rw [out] at ha
          cases ha
          exact he
        | false =>
          simp only [isPending, hh, he]
          exact .pending ht out he

/- One act -/

theorem follows_clearPending (h : s.Sound) (cid : Int) (requestType : String) :
    Follows s (s.clearPending cid requestType) [.failed cid requestType] := by
  obtain ⟨hd, hg⟩ := drops_clearPending h cid requestType
  refine ⟨hd.sound, fun c ty => ?_, hd.notificationAt, hd.definitions, hd.validityPeriodMs,
    hd.now.ge⟩
  change _ = if cid = c ∧ requestType = ty then none else s.openSince c ty
  split
  next hs => rw [← hs.1, ← hs.2, openSince_of_gone hg]
  next ho => exact hd.openSince_kept fun hs => ho ⟨hs.1.symm, hs.2.symm⟩

theorem follows_query (h : s.Sound) (cid : Int) (msg : Json) :
    Follows s (s.query cid msg).1 (s.events (.query cid msg)) := by
  have asked := asked_query s cid msg
  have told : s.events (.query cid msg) = match (s.query cid msg).2 with
    | .forward requestType => [.forwarded cid requestType s.now]
    | _ => [] := rfl
  rw [told]
  generalize s.query cid msg = result at asked
  cases asked with
  | notMemoized | cached | pending => exact .refl h
  | @forward requestType nty hty hi =>
    obtain ⟨hd, hg⟩ := drops_clearPending h cid requestType
    have hm := marked_markPending hd.sound hg
    refine ⟨hm.sound, fun c ty => ?_, fun c ty => ?_, hm.definitions.trans hd.definitions,
      hm.validityPeriodMs.trans hd.validityPeriodMs, (hm.now.trans hd.now).ge⟩
    · rw [hm.openSince_eq hd.sound, hd.now]
      change _ = if cid = c ∧ requestType = ty then some s.now else s.openSince c ty
      split
      · rfl
      next ho => exact hd.openSince_kept fun hs => ho ⟨hs.1.symm, hs.2.symm⟩
    · rw [← hd.notificationAt c ty, notificationAt, hm.notifications]
      rfl

variable {ev : QueryEvent} {act : QueryAct} {acts : List QueryAct} {now : Nat} {c : Int}
  {ty : String}

theorem Drops.follows {A : Int → String → Prop}
    {notes : OrderedMap Int (OrderedMap String MemoizedNotification)}
    (hd : Drops A { s with notifications := notes } s')
    (hg : ∀ c ty, A c ty → s'.pendingAt c ty = none ∧ ev.since c ty (s.openSince c ty) = none)
    (hk : ∀ c ty, ¬ A c ty → ev.since c ty (s.openSince c ty) = s.openSince c ty)
    (last : ∀ c ty, (notes.get? c).bind (·.get? ty) = ev.last c ty (s.notificationAt c ty)) :
    Follows s s' [ev] where
  sound := hd.sound
  since := fun c ty => by
    change _ = ev.since c ty (s.openSince c ty)
    by_cases own : A c ty
    · obtain ⟨hm, he⟩ := hg c ty own
      rw [openSince_of_gone hm, he]
    · rw [hk c ty own]
      exact hd.openSince_kept own
  last := fun c ty => (hd.notificationAt c ty).trans (last c ty)
  definitions := hd.definitions
  validityPeriodMs := hd.validityPeriodMs
  now := hd.now.ge

theorem follows_record (h : s.Sound) (cid : Int) (msg : String) (val : Json) :
    Follows s (s.recordNotification cid msg val)
      (s.events (.recordNotification cid msg val)) := by
  cases ht : s.requestTypeOf (getCustomizedType val) with
  | none =>
    simp only [recordNotification, events, ht]
    exact .refl h
  | some types =>
    obtain ⟨nty, requestType⟩ := types
    simp only [recordNotification, events, ht]
    obtain ⟨hd, hg⟩ := drops_clearPending (sound_notifications h (s.notifications.set cid
      (((s.notifications.get? cid).getD .empty).set nty ⟨msg, val, s.now⟩)))
      cid requestType
    refine hd.follows ?_ ?_ ?_
    · rintro c ty ⟨rfl, rfl⟩
      exact ⟨hg, if_pos ⟨rfl, rfl⟩⟩
    · exact fun c ty ho => if_neg fun hs => ho ⟨hs.1.symm, hs.2.symm⟩
    · intro c ty
      rw [get?_set, QueryEvent.last, notificationAt]
      by_cases own : c = cid
      · subst own
        rw [if_pos rfl, bind_some, get?_set]
        by_cases hs : ty = nty
        · rw [if_pos hs, if_pos ⟨rfl, hs.symm⟩]
        · rw [if_neg hs, if_neg fun hb => hs hb.2.symm]
          cases s.notifications.get? c <;> rfl
      · rw [if_neg own, if_neg fun hb => own hb.1.symm]

theorem follows_clearClient (h : s.Sound) (cid : Int) :
    Follows s (s.clearClient cid) [.clientCleared cid] := by
  obtain ⟨hd, hg⟩ := drops_clearClient h cid
  refine hd.follows ?_ ?_ ?_
  · rintro c ty rfl
    exact ⟨pendingAt_of_outer hg ty, if_pos rfl⟩
  · exact fun c ty ho => if_neg fun hs => ho hs.symm
  · intro c ty
    rw [get?_delete, QueryEvent.last, notificationAt]
    by_cases own : c = cid
    · rw [if_pos own, if_pos own.symm, bind_none]
    · rw [if_neg own, if_neg fun hs => own hs.symm]

theorem follows_clear (h : s.Sound) : Follows s s.clear [.cleared] := by
  obtain ⟨hd, hg⟩ := drops_clear h
  refine hd.follows ?_ ?_ ?_
  · exact fun c ty _ => ⟨pendingAt_of_outer (hg c) ty, rfl⟩
  · exact fun c ty ho => absurd trivial ho
  · exact fun c ty => rfl

theorem Armed.follows {events : List QueryEvent} {o : Nat} {retry : Json} (sound : s.Sound)
    (hh : s.pendingAt cid requestType = some o) (har : Armed s s' cid requestType o retry)
    (own : events.foldl (QueryEvent.since cid requestType) (some (s.queries o).sentAt) =
      some (s'.queries o).sentAt)
    (ho : ∀ c ty before, ¬ (c = cid ∧ ty = requestType) →
      events.foldl (QueryEvent.since c ty) before = before)
    (last : ∀ c ty before, events.foldl (QueryEvent.last c ty) before = before) :
    Follows s s' events where
  sound := har.sound sound hh
  since := fun c ty => by
    by_cases hs : c = cid ∧ ty = requestType
    · obtain ⟨rfl, rfl⟩ := hs
      rw [openSince, openSince, har.pendingAt_eq, hh, map_some, map_some, own]
    · rw [ho c ty _ hs, openSince, openSince, har.pendingAt_eq]
      cases hf : s.pendingAt c ty with
      | none => rfl
      | some p =>
        have apart : p ≠ o := fun eq => hs (sound.queries_apart hf (eq ▸ hh))
        rw [map_some, map_some, har.queries p apart]
  last := fun c ty => by rw [last, notificationAt, notificationAt, har.notifications]
  definitions := har.definitions
  validityPeriodMs := har.validityPeriodMs
  now := har.now.ge

theorem follows_fire (h : s.Sound) (id : Nat) (retried : Bool) :
    Follows s (s.onRetryTimer id retried) (s.events (.fire id retried)) := by
  cases hl : s.timers id with
  | none =>
    simp only [onRetryTimer, events, hl]
    exact .refl h
  | some timer =>
    simp only [events, hl]
    cases retried with
    | true =>
      obtain ⟨o, hh, ha, hr⟩ := armed_onRetryTimer h hl
      refine ha.follows h hh ?_ ?_ ?_
      · rw [hr]
        exact if_pos ⟨rfl, rfl⟩
      · exact fun c ty before ho => if_neg fun hs => ho ⟨hs.1.symm, hs.2.symm⟩
      · exact fun c ty before => rfl
    | false =>
      obtain ⟨m, o, hou, hi, hc⟩ := cleared_onRetryTimer h hl
      have hd : Drops _ { s with notifications := s.notifications } _ := hc.drops h hou hi
      refine hd.follows ?_ ?_ ?_
      · rintro c ty ⟨rfl, rfl⟩
        exact ⟨(hc.pendingAt_eq h hou _ _).trans (if_pos ⟨rfl, rfl⟩), if_pos ⟨rfl, rfl⟩⟩
      · exact fun c ty ho => if_neg fun hs => ho ⟨hs.1.symm, hs.2.symm⟩
      · exact fun c ty => rfl

theorem follows_step (hso : s.Sound) (hal : s.AfterForward act) :
    Follows s (s.step act) (s.events act) := by
  cases act with
  | query cid msg => exact follows_query hso cid msg
  | setRetryTimer cid requestType retry =>
    obtain ⟨o, hh, hu⟩ := hal
    obtain ⟨ha, hs⟩ := armed_setRetryTimer hh hu retry
    exact ha.follows hso hh (congrArg some hs.symm) (fun _ _ _ _ => rfl) (fun _ _ _ => rfl)
  | recordNotification cid msg val =>
    exact follows_record hso cid msg val
  | handleSendFailure cid requestType => exact follows_clearPending hso cid requestType
  | clearClient cid => exact follows_clearClient hso cid
  | clear => exact follows_clear hso
  | fire timer retried => exact follows_fire hso timer retried
  | tick el =>
    exact ⟨⟨hso.maps_below, hso.maps_apart, hso.maps_full, hso.queries_below, hso.queries_apart,
      hso.timers_below, hso.timer_pending, hso.pending_timer⟩, fun _ _ => rfl, fun _ _ => rfl, rfl,
        rfl, Nat.le_add_right _ _⟩

theorem afterForward_query (hs : s.Sound) {msg : Json}
    (hf : (s.query cid msg).2 = .forward requestType)
    (retry : Json) : (s.query cid msg).1.AfterForward (.setRetryTimer cid requestType retry) := by
  have asked := asked_query s cid msg
  generalize s.query cid msg = result at asked hf
  cases asked with
  | notMemoized | cached | pending => cases hf
  | @forward asked nty ht hi =>
    cases hf
    obtain ⟨hd, hg⟩ := drops_clearPending hs cid requestType
    have hm := marked_markPending hd.sound hg
    refine ⟨_, (hm.pending cid requestType).trans (if_pos ⟨rfl, rfl⟩), ?_⟩
    rw [hm.queries, Function.update_self]

/- Runs -/

theorem follows_run (hs : s.Sound) (ha : Along step AfterForward s acts) :
    Follows s (acts.foldl step s) (history s acts) := by
  induction acts generalizing s with
  | nil => exact .refl hs
  | cons act rest ih =>
    have first := follows_step hs ha.1
    have ho := ih first.sound ha.2
    refine ⟨ho.sound, fun c ty => ?_, fun c ty => ?_, ho.definitions.trans first.definitions,
      ho.validityPeriodMs.trans first.validityPeriodMs, first.now.trans ho.now⟩
    · rw [history, foldl_append, ← first.since]
      exact ho.since c ty
    · rw [history, foldl_append, ← first.last]
      exact ho.last c ty

/-- Nothing in the table is from the future. -/
structure Timely (s : QueryTable) : Prop where
  since : ∀ {c ty time}, s.openSince c ty = some time → time ≤ s.now
  last : ∀ {c ty notification}, s.notificationAt c ty = some notification →
    notification.receivedAt ≤ s.now

def Dated (now : Nat) : QueryEvent → Prop
  | .forwarded _ _ time | .retried _ _ time => time ≤ now
  | .notified _ _ _ notification => notification.receivedAt ≤ now
  | .failed .. | .clientCleared _ | .cleared => True

theorem dated_events (s : QueryTable) (act : QueryAct) :
    ∀ event ∈ s.events act, Dated s.now event := by
  cases act with
  | query cid msg | recordNotification cid msg val =>
    simp only [events]
    split <;> simp [Dated]
  | fire timer retried =>
    simp only [events]
    split
    · cases retried <;> simp [Dated]
    · simp
  | setRetryTimer | handleSendFailure | clearClient | clear | tick => simp [events, Dated]

theorem since_dated {time : Nat} {before : Option Nat}
    (hd : Dated now ev) (old : ∀ time, before = some time → time ≤ now)
    (out : ev.since c ty before = some time) : time ≤ now := by
  cases ev with
  | forwarded | retried =>
    simp only [QueryEvent.since] at out
    split at out
    · cases out
      exact hd
    · exact old time out
  | failed | notified | clientCleared =>
    simp only [QueryEvent.since] at out
    split at out
    · cases out
    · exact old time out
  | cleared => cases out

theorem last_dated {before : Option MemoizedNotification}
    {note : MemoizedNotification} (hd : Dated now ev)
    (old : ∀ note, before = some note → note.receivedAt ≤ now)
    (hf : ev.last c ty before = some note) : note.receivedAt ≤ now := by
  cases ev with
  | notified =>
    simp only [QueryEvent.last] at hf
    split at hf
    · cases hf
      exact hd
    · exact old note hf
  | clientCleared =>
    simp only [QueryEvent.last] at hf
    split at hf
    · cases hf
    · exact old note hf
  | forwarded | retried | failed => exact old note hf
  | cleared => cases hf

theorem timely_step (hfo : Follows s (s.step act) (s.events act)) (ht : s.Timely) :
    (s.step act).Timely := by
  have dated := dated_events s act
  constructor
  · intro c ty time out
    rw [hfo.since] at out
    have old : ∀ time, s.openSince c ty = some time → time ≤ s.now := fun _ => ht.since
    have all :=
      foldlRecOn (motive := fun before : Option Nat => ∀ time, before = some time → time ≤ s.now)
      (s.events act) (QueryEvent.since c ty) old fun before old event mem _ =>
        since_dated (dated event mem) old
    exact (all time out).trans hfo.now
  · intro c ty note hf
    rw [hfo.last] at hf
    have old : ∀ n, s.notificationAt c ty = some n → n.receivedAt ≤ s.now := fun _ => ht.last
    have all := foldlRecOn
      (motive := fun before : Option MemoizedNotification => ∀ n, before = some n →
        n.receivedAt ≤ s.now)
      (s.events act) (QueryEvent.last c ty) old fun before old event mem _ =>
        last_dated (dated event mem) old
    exact (all note hf).trans hfo.now

theorem timely_run (hs : s.Sound) (ht : s.Timely)
    (ha : Along step AfterForward s acts) : (acts.foldl step s).Timely := by
  induction acts generalizing s with
  | nil => exact ht
  | cons act rest ih =>
    have first := follows_step hs ha.1
    exact ih first.sound (timely_step first ht) ha.2

def timerAt (s : QueryTable) (clientId : Int) (requestType : String) : Option Nat :=
  (s.pendingAt clientId requestType).bind fun o => (s.queries o).timer

/-- Live timers and pending queries with a timer are in one-to-one correspondence. -/
structure TimersMatch (s : QueryTable) : Prop where
  live : ∀ id, (s.timers id).isSome ↔ ∃ c ty, s.timerAt c ty = some id
  apart : ∀ {c ty c' ty' id}, s.timerAt c ty = some id → s.timerAt c' ty' = some id →
    c = c' ∧ ty = ty'

theorem Sound.timersMatch (h : s.Sound) : s.TimersMatch := by
  have ho : ∀ {c ty id}, s.timerAt c ty = some id →
      ∃ timer, s.timers id = some timer ∧ timer.clientId = c ∧ timer.requestType = ty := by
    intro c ty id set
    obtain ⟨o, hh, set⟩ := bind_eq_some_iff.mp set
    exact h.pending_timer hh set
  constructor
  · intro id
    constructor
    · intro hl
      obtain ⟨timer, hl⟩ := isSome_iff_exists.mp hl
      obtain ⟨o, -, hh, set⟩ := h.timer_pending hl
      exact ⟨timer.clientId, timer.requestType, by rw [timerAt, hh, bind_some, set]⟩
    · rintro ⟨c, ty, set⟩
      obtain ⟨timer, hl, -⟩ := ho set
      rw [hl]
      rfl
  · intro c ty c' ty' id x hs
    obtain ⟨timer, hl, rfl, rfl⟩ := ho x
    obtain ⟨other, ha, rfl, rfl⟩ := ho hs
    cases hl.symm.trans ha
    exact ⟨rfl, rfl⟩

theorem mem_definitions {nty : String} {type : Option String}
    (h : s.notificationTypeOf type = some (requestType, nty)) :
    type = some requestType ∧ (requestType, nty) ∈ s.definitions := by
  cases type with
  | none => cases h
  | some asked =>
    simp only [notificationTypeOf, bind_eq_bind, bind_some, bind_eq_some_iff] at h
    obtain ⟨definition, hf, h⟩ := h
    split at h
    · cases h
    · cases h
      have same := find?_some hf
      have mem := mem_of_find?_eq_some hf
      rw [← of_decide_eq_true same]
      exact ⟨rfl, mem⟩

/-- Over every run: timers match pending queries; no query is forwarded while one is out and has not
expired; what is answered from the cache is the last notification, within the validity period; and
clearing leaves nothing behind. -/
theorem queries_coalesced (definitions : List (String × String)) (validityPeriodMs : ℚ) (start : Nat)
    (acts : List QueryAct)
    (allowed : Along step AfterForward (new definitions validityPeriodMs start) acts) :
    let s := acts.foldl step (new definitions validityPeriodMs start)
    let past := history (new definitions validityPeriodMs start) acts
    s.TimersMatch ∧
    (∀ clientId message requestType, (s.query clientId message).2 = .forward requestType →
      ∀ since, outstanding clientId requestType past = some since →
        since ≤ s.now ∧ validityPeriodMs < ((s.now - since : Nat) : ℚ)) ∧
    (∀ clientId message text parsedValue, (s.query clientId message).2 = .cached text parsedValue →
      ∃ requestType notificationType notification, getCustomizedType message = some requestType ∧
        (requestType, notificationType) ∈ definitions ∧
        lastNotification clientId notificationType past = some notification ∧
          notification.message = text ∧
        notification.parsedValue = parsedValue ∧ notification.receivedAt ≤ s.now ∧
        ((s.now - notification.receivedAt : Nat) : ℚ) ≤ validityPeriodMs) ∧
    (∀ clientId, (s.clearClient clientId).pendingQueries.get? clientId = none ∧
      (s.clearClient clientId).notifications.get? clientId = none ∧
      ∀ id timer, (s.clearClient clientId).timers id = some timer → timer.clientId ≠ clientId) ∧
    (∀ clientId, s.clear.pendingQueries.get? clientId = none) ∧ s.clear.notifications = .empty ∧
      ∀ id, s.clear.timers id = none := by
  intro s past
  have fresh := sound_new definitions validityPeriodMs start
  have run := follows_run fresh allowed
  have ht : s.Timely := timely_run fresh ⟨nofun, nofun⟩ allowed
  have hs : s.Sound := run.sound
  have validity : s.validityPeriodMs = validityPeriodMs := run.validityPeriodMs
  have defined : s.definitions = definitions := run.definitions
  refine ⟨hs.timersMatch, ?_, ?_, ?_, ?_⟩
  · intro clientId message requestType hf since out
    have hh : s.openSince clientId requestType = some since :=
      (run.since clientId requestType).trans out
    have ha := asked_query s clientId message
    generalize s.query clientId message = result at ha hf
    cases ha with
    | notMemoized | cached | pending => cases hf
    | forward hty hi =>
      cases hf
      have he := hi since hh
      rw [expired, decide_eq_true_eq, validity] at he
      exact ⟨ht.since hh, he⟩
  · intro clientId message text parsedValue cached
    have ha := asked_query s clientId message
    generalize s.query clientId message = result at ha cached
    cases ha with
    | notMemoized | pending | forward => cases cached
    | @cached requestType notificationType notification hty hfo hv =>
      cases cached
      obtain ⟨hn, mem⟩ := mem_definitions hty
      rw [defined] at mem
      rw [expired, decide_eq_false_iff_not, not_lt, validity] at hv
      exact ⟨requestType, notificationType, notification, hn, mem,
        (run.last clientId notificationType).symm.trans hfo, rfl, rfl, ht.last hfo, hv⟩
  · intro clientId
    obtain ⟨hd, hg⟩ := drops_clearClient hs clientId
    refine ⟨hg, ?_, ?_⟩
    · rw [hd.notifications, get?_delete, if_pos rfl]
    · rintro id timer hl rfl
      obtain ⟨o, -, hh, -⟩ := hd.sound.timer_pending hl
      rw [pendingAt_of_outer hg] at hh
      cases hh
  · obtain ⟨hd, hg⟩ := drops_clear hs
    refine ⟨hg, hd.notifications, fun id => ?_⟩
    cases hl : s.clear.timers id with
    | none => rfl
    | some timer =>
      obtain ⟨o, -, hh, -⟩ := hd.sound.timer_pending hl
      rw [pendingAt_of_outer (hg _)] at hh
      cases hh

def asking : List QueryAct :=
  [.query 1 (.obj [("event", .str "Customized"), ("data", .obj [("type", .str "ListSession")])]),
    .setRetryTimer 1 "ListSession" .null]

theorem second_query_joins : ((asking.foldl step (new MemoizedQueryTable.definitions 1000 0)).query 1
      (.obj [("event", .str "Customized"), ("data", .obj [("type", .str "ListSession")])])).2 ≠
        .forward "ListSession" := by
  have ha : Along step AfterForward (new MemoizedQueryTable.definitions 1000 0) asking :=
    ⟨trivial, ⟨0, by decide +kernel, by decide +kernel⟩, trivial⟩
  have out : outstanding 1 "ListSession"
      (history (new MemoizedQueryTable.definitions 1000 0) asking) = some 0 := by
    decide +kernel
  have now : (asking.foldl step (new MemoizedQueryTable.definitions 1000 0)).now = 0 := by
    decide +kernel
  intro hf
  obtain ⟨-, he⟩ :=
    (queries_coalesced MemoizedQueryTable.definitions 1000 0 asking ha).2.1 _ _ _ hf _ out
  rw [now] at he
  exact absurd he (by decide +kernel)

end QueryTable

end DebugRouter.Daemon
