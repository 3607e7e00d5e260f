import DebugRouter.Daemon.HostTables
import DebugRouter.Daemon.Replies

/-!
What a call of `sendMessageToRuntime` that throws leaves behind. The query it marked and the route
it opened are taken back; a route is lost only when the counter of global ids has come to its end
and stands at the id of that route.
-/
namespace DebugRouter.Daemon

open Library List Option MemoizedQueryTable PendingRouteTable QueryTable

namespace QueryTable
variable {s s' : QueryTable} {cid : Int} {requestType : String}

def Outdated (s : QueryTable) (clientId : Int) (requestType : String) : Prop :=
  ∃ since, s.openSince clientId requestType = some since ∧ s.expired since = true

/-- Nothing but outdated queries is gone, each with its timer. -/
structure Undone (s s' : QueryTable) : Prop where
  notifications : s'.notifications = s.notifications
  pending : ∀ c ty, s'.pendingView c ty = s.pendingView c ty ∨
    s.Outdated c ty ∧ s'.pendingView c ty = none
  timers : ∀ id, s'.timers id = s.timers id ∨
    ∃ timer, s.timers id = some timer ∧ s.Outdated timer.clientId timer.requestType ∧
      s'.timers id = none
  now : s'.now = s.now

theorem Undone.refl (s : QueryTable) : Undone s s :=
  ⟨rfl, fun _ _ => .inl rfl, fun _ => .inl rfl, rfl⟩

variable {value : Json}

theorem query_of_notMemoized (h : (s.query cid value).2 = .notMemoized) :
    (s.query cid value).1 = s := by
  have asked := asked_query s cid value
  generalize s.query cid value = result at asked h
  cases asked with
  | notMemoized | cached | pending => rfl
  | forward => cases h

theorem Marked.timers_cleared {s'' : QueryTable} (hm : Marked s s' cid requestType)
    (hd : Drops (fun c ty => c = cid ∧ ty = requestType) s' s'') (id : Nat) :
    s''.timers id = s.timers id := by
  rcases hd.timers id with hs | ⟨timer, hl, ⟨ho, how⟩, -⟩
  · rw [hs, hm.timers]
  · obtain ⟨o, -, hh, set⟩ := hm.sound.timer_pending hl
    rw [ho, how, hm.pending, if_pos ⟨rfl, rfl⟩] at hh
    cases hh
    rw [hm.queries, Function.update_self] at set
    cases set

theorem undone_forward (hso : s.Sound) (hde : (s.query cid value).2 = .forward requestType) :
    Undone s ((s.query cid value).1.handleSendFailure cid requestType) := by
  have asked := asked_query s cid value
  generalize s.query cid value = result at asked hde
  cases asked with
  | notMemoized | cached | pending => cases hde
  | @forward _ nty ht hi =>
    cases hde
    obtain ⟨x, hg⟩ := drops_clearPending hso cid requestType
    have hm := marked_markPending x.sound hg
    obtain ⟨hs, hd⟩ := drops_clearPending hm.sound cid requestType
    have ho : ∀ o, s.pendingAt cid requestType = some o → s.Outdated cid requestType := by
      intro o hh
      have out : s.openSince cid requestType = some (s.queries o).sentAt := by
        rw [openSince, hh, map_some]
      exact ⟨_, out, hi _ out⟩
    refine ⟨hs.notifications.trans (hm.notifications.trans x.notifications), ?_, ?_,
      hs.now.trans (hm.now.trans x.now)⟩
    · intro c ty
      by_cases own : c = cid ∧ ty = requestType
      · obtain ⟨rfl, rfl⟩ := own
        have after := pendingView_of_gone hd
        cases hh : s.pendingAt c ty with
        | none => exact .inl (after.trans (pendingView_of_gone hh).symm)
        | some o => exact .inr ⟨ho o hh, after⟩
      · refine .inl ((hs.pendingView_kept hm.sound own).trans ?_)
        rw [hm.pendingView_eq x.sound, if_neg own, x.pendingView_kept hso own]
    · intro id
      have hc := hm.timers_cleared hs id
      rcases x.timers id with hsa | ⟨timer, hl, ⟨how, hho⟩, cut⟩
      · exact .inl (hc.trans hsa)
      · obtain ⟨o, -, hh, -⟩ := hso.timer_pending hl
        rw [how, hho] at hh
        refine .inr ⟨timer, hl, ?_, hc.trans cut⟩
        rw [how, hho]
        exact ho o hh

end QueryTable

namespace HostTables
variable {s : HostTables} {r : Registry} {cid : Int} {target : Target} {data : Json}
variable {requestType : Option String}

/-- A call sent nothing, called no `resolve`, and left the tables as they were but for outdated
queries. -/
structure Traceless (s : HostTables) (sent : TablesSent) : Prop where
  outputs : sent.outputs = []
  routes : sent.tables.pendingRoutes.routes = s.pendingRoutes.routes
  routeTimers : sent.tables.pendingRoutes.timers = s.pendingRoutes.timers
  queries : s.memoizedQueryTable.Undone sent.tables.memoizedQueryTable

/-- A message with an id meets a known runtime while the next global id is that of a route. -/
def Collides (s : HostTables) (r : Registry) (clientId : Int) (message : OutboundMessage) : Prop :=
  (r.appClients.has clientId || r.usbClients.has clientId) = true ∧
    (message.decode.bind messageId).isSome = true ∧
    s.pendingRoutes.routes.has s.pendingRoutes.nextGlobalMessageId = true

section Forward
variable (s cid target requestType)
variable {id : SafeInteger}

theorem rewriteOutbound_routed (h : messageId data = some id) :
    ∃ payload, s.rewriteOutboundMessageData data cid target =
      let added := s.pendingRoutes.add ⟨target.requester, cid, id, target.promise⟩
      (⟨added.1, s.memoizedQueryTable⟩, writeMessageId data payload added.2.globalMessageId,
        some added.2) := by
  obtain ⟨⟨payload, oid⟩, hf, hs⟩ := map_eq_some_iff.mp h
  cases hs
  exact ⟨payload, by rw [rewriteOutboundMessageData, hf]⟩

theorem pendingRoutes_failed (h : messageId data = some id) :
    (s.forward data cid target requestType true).tables.pendingRoutes =
      let added := s.pendingRoutes.add ⟨target.requester, cid, id, target.promise⟩
      (added.1.take added.2.globalMessageId).1 := by
  obtain ⟨payload, ho⟩ := rewriteOutbound_routed s cid target h
  rw [forward, ho]
  rfl

theorem pendingRoutes_unrouted (h : messageId data = none) :
    (s.forward data cid target requestType true).tables.pendingRoutes = s.pendingRoutes := by
  have hu : s.rewriteOutboundMessageData data cid target = (s, data, none) := by
    rw [rewriteOutboundMessageData, map_eq_none_iff.mp h]
  rw [forward, hu]
  rfl

theorem memoizedQueryTable_failed (data : Json) :
    (s.forward data cid target requestType true).tables.memoizedQueryTable =
      requestType.elim s.memoizedQueryTable (s.memoizedQueryTable.handleSendFailure cid) := by
  have same := memoizedQueryTable_rewrite s data cid target
  rw [← same]
  rfl

end Forward

theorem undone_failed {value : Json} (hs : s.memoizedQueryTable.Sound)
    (hd : (s.memoizedQueryTable.query cid value).2 = requestType.elim .notMemoized .forward) :
    s.memoizedQueryTable.Undone (requestType.elim (s.memoizedQueryTable.query cid value).1
      ((s.memoizedQueryTable.query cid value).1.handleSendFailure cid)) := by
  cases requestType with
  | none =>
    change s.memoizedQueryTable.Undone (s.memoizedQueryTable.query cid value).1
    rw [query_of_notMemoized hd]
    exact .refl _
  | some type => exact undone_forward hs hd

theorem traceless_iff_of_sound (hso : s.memoizedQueryTable.Sound) (message : OutboundMessage)
    (sendFails : Bool)
    (hth : (s.sendMessageToRuntime r cid message target sendFails).error.isSome = true) :
    Traceless s (s.sendMessageToRuntime r cid message target sendFails) ↔
      ¬s.Collides r cid message := by
  have hdi := dispatched_toRuntime s r cid message target sendFails
  generalize s.sendMessageToRuntime r cid message target sendFails = sent at hdi hth
  have still : ∀ error, Traceless s ⟨s, [], some error⟩ := fun _ => ⟨rfl, rfl, rfl, .refl _⟩
  cases hdi with
  | unknown hg =>
    refine iff_of_true (still _) fun hc => ?_
    rw [hc.1] at hg
    cases hg
  | unreadable hfa =>
    refine iff_of_true (still _) fun ⟨_, hn, _⟩ => ?_
    rw [hfa] at hn
    cases hn
  | ignored | cached | pending => cases hth
  | forwarded data hk hd value hre type hde =>
    cases sendFails with
    | false => cases hth
    | true =>
      have id : messageId value = messageId data := by rw [hre, messageId_rewriteId]
      let asked : HostTables := ⟨s.pendingRoutes, (s.memoizedQueryTable.query cid value).1⟩
      have hq : s.memoizedQueryTable.Undone
          (asked.forward value cid target type true).tables.memoizedQueryTable := by
        rw [memoizedQueryTable_failed]
        exact undone_failed hso hde
      cases hn : messageId data with
      | none =>
        have hr := pendingRoutes_unrouted asked cid target type (id.trans hn)
        refine iff_of_true ⟨rfl, congrArg _ hr, congrArg _ hr, hq⟩ fun ⟨_, hf, _⟩ => ?_
        rw [hd, bind_some, hn] at hf
        cases hf
      | some own =>
        have hr := pendingRoutes_failed asked cid target type (id.trans hn)
        have hco : s.Collides r cid message ↔
            s.pendingRoutes.routes.has s.pendingRoutes.nextGlobalMessageId = true := by
          refine ⟨fun hc => hc.2.2, fun hl => ⟨hk, ?_, hl⟩⟩
          rw [hd, bind_some, hn]
          rfl
        rw [hco, Bool.not_eq_true,
          ← s.pendingRoutes.take_add_iff ⟨target.requester, cid, own, target.promise⟩]
        refine ⟨fun ht => (congrArg _ hr).symm.trans ht.routes, fun hsa => ?_⟩
        exact ⟨rfl, (congrArg _ hr).trans hsa, (congrArg _ hr).trans (s.pendingRoutes.take_add _).2,
          hq⟩

/-- In every state of the tables a call that throws leaves no trace, exactly unless its message
would take the id of a route. -/
theorem failed_send_traceless_iff (start : Nat) (acts : List TableAct) (r : Registry) (clientId : Int)
    (message : OutboundMessage) (target : Target) (sendFails : Bool) :
    let s := acts.foldl step (initial start)
    (s.sendMessageToRuntime r clientId message target sendFails).error.isSome = true →
      (Traceless s (s.sendMessageToRuntime r clientId message target sendFails) ↔
        ¬s.Collides r clientId message) :=
  traceless_iff_of_sound (sound_run start acts) message sendFails

/- Requests that come and go until the counter stands still -/

theorem send_notMemoized {message : OutboundMessage}
    (hk : (r.appClients.has cid || r.usbClients.has cid) = true)
    (hd : message.decode = some data) (hp : isLegacyHandshake data = false)
    (ha : s.memoizedQueryTable.query cid
      (rewriteClientId data (if r.appClients.has cid then cid else -1)) =
      (s.memoizedQueryTable, .notMemoized)) (target : Target) (sendFails : Bool) :
    s.sendMessageToRuntime r cid message target sendFails =
      s.forward (rewriteClientId data (if r.appClients.has cid then cid else -1)) cid target none
        sendFails := by
  unfold sendMessageToRuntime
  dsimp only
  rw [if_pos hk, hd]
  dsimp only
  rw [hp, ha]
  rfl

def oneRuntime : Registry := (Host.connecting.foldl Host.step (Host.initial false)).registry

theorem oneRuntime_known : (oneRuntime.appClients.has 1 || oneRuntime.usbClients.has 1) = true := by
  decide +kernel

def cdpRequest : OutboundMessage := .value (customizedRequest "CDP")

def cdpValue : Json :=
  rewriteClientId (cloneJsonValue (customizedRequest "CDP"))
    (if oneRuntime.appClients.has 1 then 1 else -1)

theorem messageId_cdpValue : messageId cdpValue = some ⟨7, by decide⟩ := by
  rw [cdpValue, messageId_rewriteId, messageId_clone, messageId_customizedRequest]

theorem customizedType_cdpValue : getCustomizedType cdpValue = some "CDP" := by decide +kernel

theorem plain_cdpRequest :
    isLegacyHandshake (cloneJsonValue (customizedRequest "CDP")) = false := by decide +kernel

theorem send_cdpRequest (h : s.memoizedQueryTable.definitions = MemoizedQueryTable.definitions)
    (target : Target) (sendFails : Bool) :
    s.sendMessageToRuntime oneRuntime 1 cdpRequest target sendFails =
      s.forward cdpValue 1 target none sendFails := by
  refine send_notMemoized oneRuntime_known rfl plain_cdpRequest ?_ target sendFails
  change s.memoizedQueryTable.query 1 cdpValue = _
  have type : MemoizedQueryTable.notificationTypeOf "CDP" = none := by decide
  rw [QueryTable.query, QueryTable.notificationTypeOf_default h, customizedType_cdpValue,
    Option.bind_some, type]
  rfl

def answeredRequest (globalMessageId : Nat) : List TableAct :=
  [.send oneRuntime 1 cdpRequest ⟨.webSocket 2, none⟩ false, .take globalMessageId]

def answeredRequests (n : Nat) : List TableAct := (range n).flatMap fun i => answeredRequest (i + 1)

theorem tables_send_cdpRequest (h : s.memoizedQueryTable.definitions = MemoizedQueryTable.definitions)
    (target : Target) :
    s.step (.send oneRuntime 1 cdpRequest target false) =
      ⟨(s.pendingRoutes.add ⟨target.requester, 1, ⟨7, by decide⟩, target.promise⟩).1,
        s.memoizedQueryTable⟩ := by
  obtain ⟨payload, ho⟩ := rewriteOutbound_routed s 1 target messageId_cdpValue
  rw [step, send_cdpRequest h, forward, ho]
  rfl

theorem foldl_answeredRequest
    (h : s.memoizedQueryTable.definitions = MemoizedQueryTable.definitions) :
    (answeredRequest s.pendingRoutes.nextGlobalMessageId).foldl step s =
      let added := s.pendingRoutes.add ⟨.webSocket 2, 1, ⟨7, by decide⟩, none⟩
      ⟨(added.1.take added.2.globalMessageId).1, s.memoizedQueryTable⟩ := by
  rw [answeredRequest, List.foldl_cons, tables_send_cdpRequest h, List.foldl_cons, List.foldl_nil]
  rfl

theorem foldl_answeredRequests (n : Nat) (few : n < 2 ^ 53) :
    let s := (answeredRequests n).foldl step (initial 0)
    s.memoizedQueryTable = (initial 0).memoizedQueryTable ∧ s.pendingRoutes.routes = .empty ∧
      s.pendingRoutes.nextGlobalMessageId = n + 1 := by
  induction n with
  | zero => exact ⟨rfl, rfl, rfl⟩
  | succ n ih =>
    obtain ⟨hq, hr, hc⟩ := ih (by omega)
    have last : answeredRequests (n + 1) = answeredRequests n ++ answeredRequest (n + 1) := by
      simp [answeredRequests, range_succ]
    rw [last, foldl_append]
    generalize (answeredRequests n).foldl step (initial 0) = s at hq hr hc
    rw [← hc, foldl_answeredRequest (congrArg definitions hq)]
    refine ⟨hq, ?_, ?_⟩
    · refine (s.pendingRoutes.take_add _).1.trans ?_
      rw [hr]
      rfl
    · refine (RouteTable.nextGlobalMessageId_remove ..).trans ?_
      change increment s.pendingRoutes.nextGlobalMessageId = _
      rw [hc, increment]
      omega

def exhausting (n : Nat) : List TableAct :=
  answeredRequests n ++ [.send oneRuntime 1 cdpRequest ⟨.webSocket 2, none⟩ false]

theorem foldl_exhausting {n : Nat} (h : n + 1 = 2 ^ 53) :
    let s := (exhausting n).foldl step (initial 0)
    s.memoizedQueryTable.definitions = MemoizedQueryTable.definitions ∧
      s.pendingRoutes.nextGlobalMessageId = 2 ^ 53 ∧
      s.pendingRoutes.routes.has (2 ^ 53) = true := by
  obtain ⟨hq, hr, hc⟩ := foldl_answeredRequests n (by omega)
  rw [exhausting, List.foldl_append]
  generalize (answeredRequests n).foldl step (initial 0) = s at hq hr hc
  rw [List.foldl_cons, List.foldl_nil, tables_send_cdpRequest (congrArg QueryTable.definitions hq)]
  refine ⟨congrArg QueryTable.definitions hq, ?_, ?_⟩
  · change PendingRouteTable.increment s.pendingRoutes.nextGlobalMessageId = _
    rw [hc, PendingRouteTable.increment]
    omega
  · change (s.pendingRoutes.routes.set s.pendingRoutes.nextGlobalMessageId _).has _ = true
    rw [OrderedMap.has_set, hc, h]
    exact Bool.or_eq_true_iff.mpr (.inr (decide_eq_true rfl))

theorem drops_route (hd : s.memoizedQueryTable.definitions = MemoizedQueryTable.definitions)
    (hc : s.pendingRoutes.nextGlobalMessageId = 2 ^ 53)
    (hl : s.pendingRoutes.routes.has (2 ^ 53) = true) :
    let sent := s.sendMessageToRuntime oneRuntime 1 cdpRequest ⟨.webSocket 3, none⟩ true
    sent.error.isSome = true ∧ s.pendingRoutes.routes.has (2 ^ 53) = true ∧
      sent.tables.pendingRoutes.routes.has (2 ^ 53) = false ∧ ¬Traceless s sent := by
  dsimp only
  rw [send_cdpRequest hd]
  have gone : (s.forward cdpValue 1 ⟨.webSocket 3, none⟩ none true).tables.pendingRoutes.routes.has
      (2 ^ 53) = false := by
    rw [pendingRoutes_failed s 1 ⟨.webSocket 3, none⟩ none messageId_cdpValue]
    refine OrderedMap.has_eq_false.mpr ?_
    rw [(s.pendingRoutes.take_add _).1, hc, OrderedMap.get?_delete, if_pos rfl]
  refine ⟨rfl, hl, gone, fun ht => ?_⟩
  rw [ht.routes, hl] at gone
  cases gone

/-- With the counter at its end a request that fails takes the waiting one with it. -/
theorem failed_send_drops_route : ∃ n, n + 1 = 2 ^ 53 ∧
    let s := (exhausting n).foldl step (initial 0)
    let sent := s.sendMessageToRuntime oneRuntime 1 cdpRequest ⟨.webSocket 3, none⟩ true
    sent.error.isSome = true ∧ s.pendingRoutes.routes.has (2 ^ 53) = true ∧
      sent.tables.pendingRoutes.routes.has (2 ^ 53) = false ∧ ¬Traceless s sent := by
  -- `n` stays a variable: nothing may evaluate the run
  obtain ⟨n, hl⟩ : ∃ n, n + 1 = 2 ^ 53 := ⟨2 ^ 53 - 1, by omega⟩
  obtain ⟨hd, hc, hli⟩ := foldl_exhausting hl
  exact ⟨n, hl, drops_route hd hc hli⟩

theorem first_failed_send_traceless :
    Traceless (initial 0) ((initial 0).sendMessageToRuntime oneRuntime 1 cdpRequest
      ⟨.webSocket 3, none⟩ true) := by
  have hd : (initial 0).memoizedQueryTable.definitions = MemoizedQueryTable.definitions := rfl
  refine (failed_send_traceless_iff 0 [] oneRuntime 1 cdpRequest ⟨.webSocket 3, none⟩ true ?_).mpr ?_
  · rw [List.foldl_nil, send_cdpRequest hd]
    rfl
  · rintro ⟨-, -, hl⟩
    cases hl

end HostTables

end DebugRouter.Daemon
