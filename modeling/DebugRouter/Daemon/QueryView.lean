import DebugRouter.Daemon.QueryRuns

/-!
What the nested maps, the objects and the timers come to when every pending query is told by its
client, its type, the time it was sent and the message its timer sends again.
-/
namespace DebugRouter.Daemon

open Library Option OrderedMap MemoizedQueryTable QueryTable

namespace QueryTable
variable {s s' : QueryTable} {cid : Int} {requestType : String}

def pendingView (s : QueryTable) (clientId : Int) (requestType : String) : Option PendingQuery :=
  (s.pendingAt clientId requestType).map fun o =>
    ⟨(s.queries o).sentAt, ((s.queries o).timer.bind s.timers).map RetryTimer.retry⟩

variable {c : Int} {ty : String} {A : Int → String → Prop}

theorem pendingView_of_gone (h : s.pendingAt c ty = none) : s.pendingView c ty = none := by
  rw [pendingView, h, map_none]

theorem pendingView_congr (hs : s'.pendingAt c ty = s.pendingAt c ty)
    (hq : ∀ o, s.pendingAt c ty = some o → s'.queries o = s.queries o)
    (ht : ∀ o id, s.pendingAt c ty = some o → (s.queries o).timer = some id →
      s'.timers id = s.timers id) :
    s'.pendingView c ty = s.pendingView c ty := by
  unfold pendingView
  rw [hs]
  cases hf : s.pendingAt c ty with
  | none => rfl
  | some o =>
    rw [map_some, map_some, hq o hf]
    cases set : (s.queries o).timer with
    | none => rfl
    | some id => rw [bind_some, bind_some, ht o id hf set]

theorem Drops.pendingView_kept (hso : s.Sound) (hd : Drops A s s')
    (ho : ¬ A c ty) : s'.pendingView c ty = s.pendingView c ty := by
  have same : s'.pendingAt c ty = s.pendingAt c ty :=
    (hd.pending c ty).resolve_right fun hg => ho hg.1
  refine pendingView_congr same ?_ ?_
  · exact fun o hf => hd.queries (same.trans hf)
  · intro o id hf set
    obtain ⟨timer, hl, rfl, rfl⟩ := hso.pending_timer hf set
    rcases hd.timers id with hk | ⟨dropped, ht, own, -⟩
    · exact hk
    · cases hl.symm.trans ht
      exact absurd own ho

theorem Marked.pendingView_eq (hso : s.Sound) (hm : Marked s s' cid requestType) (c : Int)
    (ty : String) :
    s'.pendingView c ty = if c = cid ∧ ty = requestType then some ⟨s.now, none⟩
      else s.pendingView c ty := by
  split
  next hs =>
    rw [pendingView, hm.pending, if_pos hs, map_some, hm.queries, Function.update_self]
    rfl
  next ho =>
    refine pendingView_congr ((hm.pending c ty).trans (if_neg ho)) ?_ ?_
    · intro o hf
      rw [hm.queries, Function.update_of_ne (hso.queries_below hf).ne]
    · exact fun o id _ _ => congrFun hm.timers id

theorem notificationTypeOf_default (h : s.definitions = MemoizedQueryTable.definitions)
    (type : Option String) :
    s.notificationTypeOf type = type.bind fun requestType =>
      (MemoizedQueryTable.notificationTypeOf requestType).map (requestType, ·) := by
  cases type with
  | none => rfl
  | some requestType =>
    simp only [notificationTypeOf, MemoizedQueryTable.notificationTypeOf, h,
      MemoizedQueryTable.definitions,
      Option.bind_eq_bind, Option.bind_some, List.find?_cons, List.find?_nil]
    by_cases hs : "ListSession" = requestType
    · subst hs
      rfl
    · simp [hs]

end QueryTable

end DebugRouter.Daemon
