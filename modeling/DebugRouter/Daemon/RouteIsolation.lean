import Mathlib.Data.List.Perm.Basic
import DebugRouter.Daemon.Moves

/-!
Route isolation. Every id a route was opened under is live or was removed once, a live route
belongs to a requester that can still be reached, and a runtime's reply goes to that requester
alone.
-/
namespace DebugRouter.Daemon

open Library Relation List OrderedMap Traffic PendingRouteTable Ledger

namespace PendingRouteTable

/-- Below `2 ^ 53` requests the ids run from one, and each is live or removed. -/
structure Accounted (table : PendingRouteTable) : Prop where
  counted : table.nextGlobalMessageId = min (table.opened.length + 1) (2 ^ 53)
  parted : table.opened.length < 2 ^ 53 → table.opened = range' 1 table.opened.length ∧
    (table.removals.map Prod.fst ++ table.routes.keys).Perm table.opened

variable {table : PendingRouteTable}

theorem accounted_empty : empty.Accounted := ⟨by decide, fun _ => ⟨rfl, .refl _⟩⟩

theorem Accounted.fresh (ha : table.Accounted) (few : table.opened.length < 2 ^ 53) :
    table.nextGlobalMessageId ∉ table.routes.keys := by
  intro hu
  obtain ⟨ids, hp⟩ := ha.parted few
  have listed := hp.subset (mem_append_right _ hu)
  rw [ids, mem_range'_1, ha.counted] at listed
  omega

theorem accounted_add (h : table.Accounted) (route : PendingRoute) :
    (table.add route).1.Accounted := by
  refine ⟨?_, ?_⟩
  · simp only [add, length_append, length_singleton, h.counted, increment]
    omega
  · intro few
    simp only [add, length_append, length_singleton] at few ⊢
    have hb : table.opened.length < 2 ^ 53 := by omega
    obtain ⟨ids, hp⟩ := h.parted hb
    have next : table.nextGlobalMessageId = table.opened.length + 1 := by
      rw [h.counted]
      omega
    constructor
    · rw [range'_concat, ← ids, next, Nat.one_mul, Nat.add_comm 1]
    · rw [keys_set, if_neg (h.fresh hb), ← append_assoc]
      exact hp.append_right _

theorem accounted_remove (h : table.Accounted) (gid : Nat) (reason : Removal) :
    (table.remove gid reason).Accounted := by
  unfold remove
  split
  next hl =>
    refine ⟨h.counted, fun few => ?_⟩
    obtain ⟨ids, hp⟩ := h.parted few
    refine ⟨ids, .trans ?_ hp⟩
    obtain ⟨route, hf⟩ := has_iff.mp hl
    rw [map_append, append_assoc]
    exact ((perm_delete hf).map Prod.fst).symm.append_left _
  · exact h

theorem accounted_clearMatching (h : table.Accounted) (matching : PendingRoute → Bool) :
    (table.clearMatching matching).1.Accounted := by
  refine ⟨h.counted, fun few => ?_⟩
  obtain ⟨ids, hp⟩ := h.parted few
  refine ⟨ids, .trans ?_ hp⟩
  simp only [clearMatching, OrderedMap.keys, OrderedMap.filter, List.map_append, List.map_map,
    Function.comp_def, List.append_assoc]
  refine .append_left _ ?_
  rw [← List.map_append]
  exact (List.filter_append_perm _ _).map _

theorem Accounted.once (ha : table.Accounted) (few : table.opened.length < 2 ^ 53) :
    table.opened.Nodup ∧ ∀ gid ∈ table.opened,
      (table.get gid).isSome ∧ (table.removals.map Prod.fst).count gid = 0 ∨
      table.get gid = none ∧ (table.removals.map Prod.fst).count gid = 1 := by
  obtain ⟨ids, hp⟩ := ha.parted few
  have hn : table.opened.Nodup := by
    rw [ids]
    exact nodup_range'
  refine ⟨hn, ?_⟩
  intro gid opened
  have total := hp.count_eq gid
  rw [count_append, count_eq_one_of_mem hn opened] at total
  have hk : table.routes.keys.Nodup := table.routes.nodup
  cases hl : table.get gid with
  | some route =>
    have inside : gid ∈ table.routes.keys := mem_keys_iff.mpr ⟨route, hl⟩
    have one : table.routes.keys.count gid = 1 := count_eq_one_of_mem hk inside
    exact .inl ⟨rfl, by omega⟩
  | none =>
    have ho : gid ∉ table.routes.keys := by
      rw [mem_keys_iff]
      rintro ⟨route, hf⟩
      rw [get, hf] at hl
      cases hl
    have zero : table.routes.keys.count gid = 0 := count_eq_zero_of_not_mem ho
    exact .inr ⟨rfl, by omega⟩

end PendingRouteTable

/- Ledgers -/

namespace Ledger
variable {reaches : Requester → Prop} {request : Option Request} {orphans : Prop} {l l' : Ledger}

theorem accounted_moves (hm : Moves l l') (ha : l.routes.Accounted) : l'.routes.Accounted := by
  induction hm with
  | refl => exact ha
  | tail _ hl ih =>
    cases hl with
    | taken => exact accounted_remove ih _ _
    | cleared => exact accounted_clearMatching ih _

theorem accounted_turn (ht : Turn reaches request orphans l l') (ha : l.routes.Accounted) :
    l'.routes.Accounted := by
  cases ht with
  | moved hm => exact accounted_moves hm ha
  | asked ask hm =>
    refine accounted_moves hm ?_
    cases ask with
    | opened | awaited => exact accounted_add ha _
    | refused | orphaned => exact ha

variable {gid : Nat} {route : PendingRoute}

theorem get_openRoute_cases {found : PendingRoute}
    (h : (l.openRoute route).routes.get gid = some found) :
    l.routes.get gid = some found ∨ found = route := by
  simp only [openRoute, PendingRouteTable.add, PendingRouteTable.get, OrderedMap.get?_set] at h
  split at h
  · exact .inr (Option.some.inj h).symm
  · exact .inl h

theorem get_remove {table : PendingRouteTable} {removed : Nat} {reason : Removal} :
    (table.remove removed reason).get globalMessageId =
      if globalMessageId = removed then none else table.get globalMessageId := by
  unfold PendingRouteTable.remove PendingRouteTable.get
  split
  · exact OrderedMap.get?_delete
  next ha =>
    have none : table.routes.get? removed = none := OrderedMap.has_eq_false.mp (by simpa using ha)
    split
    next hs => rw [hs, none]
    · rfl

theorem get_clear {matching : PendingRoute → Bool} : (l.clear matching).routes.get gid = some route ↔
      l.routes.get gid = some route ∧ matching route = false := by
  simp [clear, PendingRouteTable.clearMatching, PendingRouteTable.get, OrderedMap.get?_filter_eq_some]

theorem live_before_moves (hm : Moves l l') (hli : l'.routes.get gid = some route) :
    l.routes.get gid = some route := by
  induction hm with
  | refl => exact hli
  | tail _ hl ih =>
    apply ih
    cases hl with
    | taken reason hp =>
      rw [take, get_remove] at hli
      split at hli
      · cases hli
      · exact hli
    | cleared matching => exact (get_clear.mp hli).1

theorem live_before_turn (ht : Turn reaches request orphans l l')
    (hl : l'.routes.get gid = some route) :
    l.routes.get gid = some route ∨ request = some route.request ∧ reaches route.requester := by
  cases ht with
  | moved hmo => exact .inl (live_before_moves hmo hl)
  | asked ask hmo =>
    have hm := live_before_moves hmo hl
    cases ask with
    | opened asking asked hr hp | awaited asking asked hr own hpr =>
      rcases get_openRoute_cases hm with hb | rfl
      · exact .inl hb
      · exact .inr ⟨asked, hr⟩
    | refused | orphaned ho => exact .inl hm

end Ledger

/- One act -/

namespace Host
variable {request : Option Request} {orphans : Prop} {h h' : Host}

/-- What every reachable state of the Host keeps about its routes. -/
structure Isolated (h : Host) : Prop where
  enabled : h.registry.Enabled
  owned : ∀ globalMessageId route, h.traffic.routes.get globalMessageId = some route →
    h.registry.reaches route.requester
  accounted : h.traffic.routes.Accounted

theorem isolated_moves (hm : Moves h h') (hi : h.Isolated) : h'.Isolated := by
  induction hm with
  | refl => exact hi
  | tail _ hla ih =>
    obtain ⟨he, ho, ha⟩ := ih
    cases hla with
    | traffic hm =>
      exact ⟨he, fun id route hl => ho id route (live_before_moves hm hl),
        accounted_moves hm ha⟩
    | registry hk => exact ⟨hk.enabled he, fun id route hl => hk.reached _ (ho id route hl), ha⟩
    | left gone hs hk hc =>
      refine ⟨hs he, ?_, ?_⟩
      · intro gid route hl
        rw [hc, get_clear] at hl
        exact hk route.requester (by simpa using hl.2) (ho gid route hl.1)
      · rw [hc]
        exact accounted_clearMatching ha _

theorem isolated_turn (ht : Turn request orphans h h') (hi : h.Isolated) : h'.Isolated := by
  cases ht with
  | moved hm => exact isolated_moves hm hi
  | traffic ht =>
    refine ⟨hi.enabled, ?_, accounted_turn ht hi.accounted⟩
    intro gid route hl
    rcases live_before_turn ht hl with hb | ⟨-, hr⟩
    · exact hi.owned gid route hb
    · exact hr

theorem isolated_step (h : Host) (act : HostAct) (hi : h.Isolated) : (h.step act).Isolated :=
  isolated_turn (step_turn hi.enabled act) hi

theorem isolated_initial (ws : Bool) : (initial ws).Isolated :=
  ⟨.inl rfl, nofun, accounted_empty⟩

variable {gid : Nat} {route : PendingRoute}

theorem live_before_moves (hm : Moves h h') (hli : h'.traffic.routes.get gid = some route) :
    h.traffic.routes.get gid = some route := by
  induction hm with
  | refl => exact hli
  | tail _ hl ih =>
    apply ih
    cases hl with
    | traffic hm => exact Ledger.live_before_moves hm hli
    | registry hk => exact hli
    | left gone he hk hc =>
      rw [hc, Ledger.get_clear] at hli
      exact hli.1

theorem live_before_turn (ht : Turn request orphans h h')
    (hl : h'.traffic.routes.get gid = some route) :
    h.traffic.routes.get gid = some route ∨ request = some route.request := by
  cases ht with
  | moved hm => exact .inl (live_before_moves hm hl)
  | traffic ht => exact (live_before_turn ht hl).imp id And.left

/- Whole runs -/

/-- A live route was opened by an act of its requester, for its runtime and with its original id. -/
theorem live_requested (his : h.Isolated) {acts : List HostAct}
    (hl : (acts.foldl step h).traffic.routes.get gid = some route) :
    h.traffic.routes.get gid = some route ∨ ∃ act ∈ acts, act.request = some route.request := by
  induction acts generalizing h with
  | nil => exact .inl hl
  | cons act rest ih =>
    rcases ih (isolated_step h act his) hl with hb | ⟨later, hi, asked⟩
    · rcases live_before_turn (step_turn his.enabled act) hb with old | asked
      · exact .inl old
      · exact .inr ⟨act, mem_cons_self, asked⟩
    · exact .inr ⟨later, mem_cons_of_mem act hi, asked⟩

end Host

/- Delivery -/

/-- `o` hands a message with the requester's original id to the requester of the route. -/
def PendingRoute.Delivers (route : PendingRoute) (o : Output) : Prop :=
  match route.requester, route.promise with
  | .control id, some promise => ∃ value, o = .settled id promise (.ok value) ∧
      messageId value = some route.originalId
  | .control id, none => ∃ source text, o = .event id (.clientMessage source route.clientId text) ∧
      messageId (parseJsonMessageOrNull text) = some route.originalId
  | .webSocket id, _ => ∃ text, o = .web id text ∧
      messageId (parseJsonMessageOrNull text) = some route.originalId

variable {r : Registry} {t : Traffic}

theorem Traffic.deliverReply_delivers {route : PendingRoute} {value : Json}
    (source : MessageSource) (hr : r.reaches route.requester)
    (hre : messageId value = some route.originalId) :
    ∃ o, (t.deliverReply r route value source).2 = [o] ∧ route.Delivers o := by
  unfold deliverReply PendingRoute.Delivers
  cases requester : route.requester with
  | webSocket id =>
    rw [requester] at hr
    have sent (text : String) : r.sendMessageToWebClient id text = [.web id text] := if_pos hr
    refine ⟨_, sent _, _, rfl, ?_⟩
    rw [messageId_text, messageId_rewriteRuntime, hre]
  | control id =>
    rw [requester] at hr
    cases route.promise with
    | some promise => exact ⟨_, rfl, _, rfl, messageId_normalizeRaw hre route.clientId⟩
    | none =>
      have sent (event : ControlEvent) : r.sendToControl id event = [.event id event] := if_pos hr
      refine ⟨_, sent _, _, _, rfl, ?_⟩
      rw [messageId_text, hre]

theorem Traffic.routes_deliverReply (route : PendingRoute) (value : Json)
    (source : MessageSource) : (t.deliverReply r route value source).1.routes = t.routes := by
  unfold deliverReply
  split <;> rfl

namespace Host

variable {h : Host} {cid : Int} {msg : String} {id : SafeInteger}

theorem claimed_delivered (hi : h.Isolated)
    (source : MessageSource) {globalMessageId : Nat} {route : PendingRoute}
    (hv : messageId (parseJsonMessageOrNull message) = some id) (hs : id.1 = globalMessageId)
    (hl : h.traffic.routes.get globalMessageId = some route) (ho : route.clientId = clientId) :
    (∃ o, (h.traffic.handleRuntimeMessage h.registry clientId message source).2 = [o] ∧
      route.Delivers o) ∧
    ∀ other,
    (h.traffic.handleRuntimeMessage h.registry clientId message source).1.routes.get other =
      if other = globalMessageId then none else h.traffic.routes.get other := by
  obtain ⟨⟨payload, found⟩, hr, rfl⟩ := Option.map_eq_some_iff.mp hv
  have named : found.1 = globalMessageId := hs
  have hc : h.traffic.routeOf found = some route := by simp [routeOf, named, hl]
  have key : found.1.toNat = globalMessageId := by simp [named]
  have hh : h.traffic.handleRuntimeMessage h.registry clientId message source =
      { h.traffic with routes := h.traffic.routes.remove globalMessageId .reply }.deliverReply
        h.registry route (writeMessageId (parseJsonMessageOrNull message) payload route.originalId.1)
        source := by
    simp only [handleRuntimeMessage, hr, hc, ho, key, if_true]
  have restored := messageId_writeMessageId hr route.originalId
  rw [hh]
  refine ⟨deliverReply_delivers source (hi.owned _ route hl) restored, ?_⟩
  intro other
  rw [routes_deliverReply]
  exact get_remove

theorem unclaimed_dropped (source : MessageSource)
    (hv : messageId (parseJsonMessageOrNull msg) = some id)
    (hf : ∀ (gid : Nat) route, id.1 = gid →
      h.traffic.routes.get gid = some route → route.clientId ≠ cid) :
    h.traffic.handleRuntimeMessage h.registry cid msg source = (h.traffic, []) := by
  obtain ⟨⟨payload, found⟩, hr, rfl⟩ := Option.map_eq_some_iff.mp hv
  simp only [handleRuntimeMessage, hr]
  cases hc : h.traffic.routeOf found with
  | none => rfl
  | some route =>
    unfold routeOf at hc
    split at hc
    next hn => exact if_neg (hf _ route (Int.toNat_of_nonneg hn).symm hc)
    · cases hc

/-- In every reachable state: a runtime's message with an id is delivered once, to the requester of
the live route with that id if the route was opened for that runtime, and to nobody otherwise; every
live route was asked for by its requester; every id is opened once and leaves the table once. -/
theorem route_isolation (enableWebSocket : Bool) (acts : List HostAct) :
    let h := acts.foldl step (initial enableWebSocket)
    (∀ clientId message source id, messageId (parseJsonMessageOrNull message) = some id →
      (∀ (globalMessageId : Nat) route, id.1 = globalMessageId →
        h.traffic.routes.get globalMessageId = some route → route.clientId = clientId →
        (∃ o, (h.traffic.handleRuntimeMessage h.registry clientId message source).2 = [o] ∧
          route.Delivers o) ∧
        ∀ other,
          (h.traffic.handleRuntimeMessage h.registry clientId message source).1.routes.get other =
          if other = globalMessageId then none else h.traffic.routes.get other) ∧
      ((∀ (globalMessageId : Nat) route, id.1 = globalMessageId →
        h.traffic.routes.get globalMessageId = some route → route.clientId ≠ clientId) →
        h.traffic.handleRuntimeMessage h.registry clientId message source = (h.traffic, []))) ∧
    (∀ globalMessageId route, h.traffic.routes.get globalMessageId = some route →
      ∃ act ∈ acts, act.request = some route.request) ∧
    (h.traffic.routes.opened.length < 2 ^ 53 → h.traffic.routes.opened.Nodup ∧
      ∀ globalMessageId ∈ h.traffic.routes.opened,
        (h.traffic.routes.get globalMessageId).isSome ∧
          (h.traffic.routes.removals.map Prod.fst).count globalMessageId = 0 ∨
        h.traffic.routes.get globalMessageId = none ∧
          (h.traffic.routes.removals.map Prod.fst).count globalMessageId = 1) := by
  intro h
  have start := isolated_initial enableWebSocket
  have alone : h.Isolated := invariant_foldl isolated_step start acts
  refine ⟨?_, ?_, alone.accounted.once⟩
  · intro clientId message source id hv
    exact ⟨fun globalMessageId route hsa hl ho =>
      claimed_delivered alone source hv hsa hl ho, unclaimed_dropped source hv⟩
  · intro globalMessageId route hl
    rcases live_requested start hl with old | asked
    · cases old
    · exact asked

end Host

end DebugRouter.Daemon
