import DebugRouter.Daemon.RouteIsolation
import DebugRouter.Protocol.Validation

/-!
The promises of `sendMessageWithReply`. A promise is settled or its route is live; the two ways
in which the Host drops a message without an answer are the only ones that break this.
-/
namespace DebugRouter.Daemon

open Library Relation List Option OrderedMap Json Traffic PendingRouteTable Ledger

namespace Ledger
variable {reaches : Requester → Prop} {req : Option Request} {orphans : Prop} {l l' : Ledger}

def promiseOf (route : PendingRoute) : Option Nat := (awaitedBy route).map Prod.snd

def awaited (l : Ledger) : List Nat := l.routes.routes.values.filterMap promiseOf

def Kept (l : Ledger) : Prop := (l.settled ++ l.awaited).Perm (range l.nextPromise)

theorem kept_move (hm : Move l l') (hk : l.Kept) : l'.Kept := by
  cases hm with
  | @taken globalMessageId rt reason hl =>
    refine List.Perm.trans ?_ hk
    have removed : (l.routes.remove globalMessageId reason).routes =
        l.routes.routes.delete globalMessageId := by
      rw [remove, if_pos (has_iff.mpr ⟨rt, hl⟩)]
    have hp := ((perm_delete hl).map Prod.snd).filterMap promiseOf
    unfold take awaited
    rw [removed, append_assoc]
    refine .append_left _ (.trans ?_ hp.symm)
    rw [map_cons, filterMap_cons]
    unfold promiseOf
    cases (awaitedBy rt).map Prod.snd <;> exact .refl _
  | cleared matching =>
    refine List.Perm.trans ?_ hk
    have gone (removed : List PendingRoute) :
        (removed.filterMap awaitedBy).map Prod.snd = removed.filterMap promiseOf := by
      rw [map_filterMap]
      rfl
    have hp := ((filter_append_perm (fun e => matching e.2) l.routes.routes.entries).map
      Prod.snd).filterMap promiseOf
    rw [map_append, filterMap_append] at hp
    simp only [clear, clearMatching, gone, append_assoc]
    exact .append_left _ hp

theorem kept_moves (hm : Moves l l') (hk : l.Kept) : l'.Kept := by
  induction hm with
  | refl => exact hk
  | tail _ hl ih => exact kept_move hl ih

theorem awaited_openRoute (h : l.routes.nextGlobalMessageId ∉ l.routes.routes.keys)
    (rt : PendingRoute) : (l.openRoute rt).awaited = l.awaited ++ (promiseOf rt).toList := by
  simp only [awaited, openRoute, add, values, entries_set_of_fresh h, map_append, filterMap_append]
  cases hf : promiseOf rt <;> simp [hf]

theorem kept_turn (ht : Turn reaches req orphans l l') (hre : ¬orphans)
    (hf : req.isSome → l.routes.nextGlobalMessageId ∉ l.routes.routes.keys) (hk : l.Kept) :
    l'.Kept := by
  cases ht with
  | moved hm => exact kept_moves hm hk
  | asked ask hm =>
    refine kept_moves hm ?_
    unfold Kept at hk ⊢
    cases ask with
    | opened rt asked hr hp =>
      have none : promiseOf rt = none := by
        unfold promiseOf awaitedBy
        cases rt.requester <;> simp [hp]
      rw [awaited_openRoute (hf (by simp [asked])), none, toList_none, append_nil]
      exact hk
    | awaited rt asked hr own hpr =>
      have hc : promiseOf rt = some l.nextPromise := by simp [promiseOf, awaitedBy, own, hpr]
      have opened := awaited_openRoute (hf (by simp [asked])) rt
      rw [hc, toList_some] at opened
      rw [range_succ]
      refine .trans (.of_eq ?_) (hk.append_right [l.nextPromise])
      rw [append_assoc, ← opened]
      rfl
    | refused =>
      rw [range_succ]
      refine .trans ?_ (hk.append_right [l.nextPromise])
      rw [append_assoc, append_assoc]
      exact .append_left _ perm_append_comm
    | orphaned ho => exact absurd ho hre

end Ledger

/-- The live route `globalMessageId` has the `resolve`/`reject` pair of the promise. -/
def Ledger.Carries (l : Ledger) (globalMessageId promise : Nat) : Prop :=
  ∃ route, l.routes.get globalMessageId = some route ∧ promiseOf route = some promise

namespace Ledger
variable {l : Ledger}

theorem mem_awaited {promise : Nat} : promise ∈ l.awaited ↔ ∃ gid, l.Carries gid promise := by
  simp only [awaited, List.mem_filterMap, OrderedMap.mem_values_iff, Carries, PendingRouteTable.get]
  constructor
  · rintro ⟨route, ⟨gid, hl⟩, hc⟩
    exact ⟨gid, route, hl, hc⟩
  · rintro ⟨gid, route, hl, hc⟩
    exact ⟨route, ⟨gid, hl⟩, hc⟩

theorem carries_unique {promise a b : Nat} (hon : l.awaited.count promise ≤ 1)
    (first : l.Carries a promise) (hs : l.Carries b promise) : a = b := by
  by_contra hap
  obtain ⟨route, hl, hc⟩ := first
  obtain ⟨other, ha, ho⟩ := hs
  have parts := ((perm_delete hl).map Prod.snd).filterMap promiseOf
  have rest : promise ∈ ((l.routes.routes.delete a).entries.map Prod.snd).filterMap promiseOf := by
    refine mem_filterMap.mpr ⟨other, mem_values_iff.mpr ⟨b, ?_⟩, ho⟩
    rw [get?_delete, if_neg (Ne.symm hap)]
    exact ha
  have count := parts.count_eq promise
  rw [map_cons, filterMap_cons, hc, count_cons_self] at count
  have above := count_pos_iff.mpr rest
  have total : l.awaited.count promise =
    ((l.routes.routes.entries.map Prod.snd).filterMap promiseOf).count promise := rfl
  omega

end Ledger

theorem Traffic.withReply_forgotten {r : Registry} {t : Traffic} {cid : Int} {msg : Json}
    (h : t.forgets r cid msg) (ctrl rpc : Nat) (fails : Bool) :
    t.sendMessageWithReply r ctrl rpc cid msg fails =
      ({ t with nextPromise := t.nextPromise + 1 }, []) := by
  simp only [forgets, Bool.and_eq_true, isSome_iff_exists, Bool.or_eq_true] at h
  obtain ⟨⟨⟨id, hv⟩, hk⟩, hl⟩ := h
  obtain ⟨found, hr, -⟩ := map_eq_some_iff.mp hv
  have hsk (named : Int) (hc : isLegacyHandshake msg = false) :
      t.memo.query t.clock cid (rewriteClientId (cloneJsonValue msg) named) = (t.memo, .pending) := by
    have hj := hl.resolve_left (by simp [hc])
    unfold coalesces at hj
    unfold MemoizedQueryTable.query
    rw [customizedType_rewriteId, customizedType_clone]
    split at hj
    · cases hj
    · split at hj
      · cases hj
      · simp_all
  have hs (tgt : Target) :
      sendMessageToRuntime r { t with nextPromise := t.nextPromise + 1 } cid (.value msg)
        tgt fails = ⟨{ t with nextPromise := t.nextPromise + 1 }, [], none⟩ := by
    unfold sendMessageToRuntime
    cases hc : isLegacyHandshake msg with
    | true => simp [hk, OutboundMessage.decode, handshake_clone, hc]
    | false => simp [hk, OutboundMessage.decode, handshake_clone, hc, hsk _ hc]
  simp [sendMessageWithReply, hr, hs]

namespace Host
variable {req : Option Request} {orphans : Prop} {h h' : Host}

/-- Every promise made so far is unsettled and has one live route, or is settled once and has none;
the timeout of its route settles it. -/
structure Answered (h : Host) : Prop where
  owned : ∀ promise < h.traffic.nextPromise,
    h.traffic.settled.count promise = 0 ∧
      (∃! globalMessageId, h.traffic.Carries globalMessageId promise) ∨
    h.traffic.settled.count promise = 1 ∧
      ∀ globalMessageId, ¬h.traffic.Carries globalMessageId promise
  timed : ∀ globalMessageId promise, h.traffic.Carries globalMessageId promise →
    promise ∈ (h.step (.routeTimeout globalMessageId)).traffic.settled

theorem answered_of_kept (hk : h.traffic.Kept) : h.Answered := by
  constructor
  · intro promise hm
    have total := hk.count_eq promise
    rw [count_append,
      count_eq_one_of_mem nodup_range (mem_range.mpr hm)] at total
    rcases Nat.eq_zero_or_pos (h.traffic.awaited.count promise) with none | some
    · refine .inr ⟨by omega, ?_⟩
      intro gid hc
      have inside := count_pos_iff.mpr (mem_awaited.mpr ⟨gid, hc⟩)
      omega
    · refine .inl ⟨by omega, ?_⟩
      obtain ⟨gid, hc⟩ := mem_awaited.mp (count_pos_iff.mp some)
      exact ⟨gid, hc, fun other ha => carries_unique (by omega) ha hc⟩
  · rintro gid promise ⟨route, hl, hca⟩
    obtain ⟨⟨ctrl, _⟩, haw, rfl⟩ := map_eq_some_iff.mp hca
    simp [step, respond, onTraffic, onRouteTimeout, hl, rejectRoutes, haw]

theorem kept_moves (hm : Moves h h') (hk : h.traffic.Kept) : h'.traffic.Kept := by
  induction hm with
  | refl => exact hk
  | tail _ hl ih =>
    cases hl with
    | traffic hm => exact Ledger.kept_moves hm ih
    | registry => exact ih
    | left gone he hk hc =>
      rw [hc]
      exact Ledger.kept_move (.cleared _) ih

/-- No message with an id for a runtime that is there is dropped without an answer, and the counter
of ids has not reached its end. -/
def Remembers (h : Host) (act : HostAct) : Prop :=
  ¬h.orphans act ∧ (act.request.isSome → h.traffic.routes.nextGlobalMessageId < 2 ^ 53)

theorem kept_step (hi : h.Isolated) {act : HostAct} (hr : h.Remembers act)
    (hk : h.traffic.Kept) : (h.step act).traffic.Kept := by
  have ht := step_turn hi.enabled act
  generalize h.step act = h' at ht ⊢
  cases ht with
  | moved hm => exact kept_moves hm hk
  | traffic ht =>
    refine kept_turn ht hr.1 ?_ hk
    intro ha
    have below := hr.2 ha
    rw [hi.accounted.counted] at below
    exact hi.accounted.fresh (by omega)

/-- In a run without such messages every promise is settled exactly once or still has its route. -/
theorem replies_answered (enableWebSocket : Bool) (acts : List HostAct)
    (remembered : Along step Remembers (initial enableWebSocket) acts) :
    Throughout step Answered (initial enableWebSocket) acts := by
  have hi : Throughout step (fun h => h.Isolated ∧ h.traffic.Kept) (initial enableWebSocket)
      acts := by
    refine throughout_of_along ?_ ⟨isolated_initial enableWebSocket, .refl _⟩ remembered
    intro h act hh hr
    exact ⟨isolated_step h act hh.1, kept_step hh.1 hr hh.2⟩
  exact throughout_mono (fun h hh => answered_of_kept hh.2) hi

end Host

/- A request of type `type`, as `isControlRpcParams` accepts it -/

def customizedRequest (type : String) : Json :=
  .obj [("event", .str "Customized"), ("data", .obj [("type", .str type), ("sender", ofInt 0),
    ("data", .obj [("client_id", ofInt 1), ("session_id", ofInt 1),
      ("message", .obj [("id", ofInt 7)])])])]

variable (ty : String)

theorem messageId_customizedRequest : messageId (customizedRequest ty) = some ⟨7, by decide⟩ := by
  rw [messageId_eq]
  have raw : rawMessage (customizedRequest ty) = some (.obj [("id", Json.ofInt 7)]) := by
    simp [rawMessage, innerData, prop, customizedRequest, Json.get?, lookupLast]
  rw [raw]
  exact validId_ofInt ⟨7, by decide⟩ rfl

theorem isRequireMessage_customizedRequest :
    Protocol.isRequireMessage (customizedRequest ty) = true := by
  simp [customizedRequest, Protocol.isRequireMessage, Protocol.required, Protocol.isRecord,
    Protocol.isString, Protocol.isText, Protocol.isPayload, Protocol.isNumber_ofInt, Json.get?,
    Json.isObject, Json.hasOwn, lookupLast]

namespace Host

/-- One control and one runtime, which gets the id 1. -/
def connecting : List HostAct :=
  [.ownershipAttached false, .controlConnected false, .registerUsbClient 8901
    ⟨"Android", some (.str "phone"), "serial", [], "127.0.0.1"⟩ (.obj [("App", .str "app")])]

theorem cdp_reply_answered :
    Throughout step Answered (initial false)
      (connecting ++ [.sendMessageWithReply 1 1 1 (customizedRequest "CDP") false]) := by
  refine replies_answered false _ ⟨⟨id, nofun⟩, ⟨id, nofun⟩, ⟨id, nofun⟩, ⟨?_, ?_⟩, trivial⟩
  · rintro ⟨-, hf⟩
    unfold forgets at hf
    rw [messageId_customizedRequest] at hf
    cases hf
  · intro _
    decide

/-- The handshake of the legacy USB protocol is dropped, and with it the promise. -/
theorem handshake_reply_orphaned : Protocol.isRequireMessage (customizedRequest "UsbConnect") = true ∧
    ¬((connecting ++
      [HostAct.sendMessageWithReply 1 1 1 (customizedRequest "UsbConnect") false]).foldl
      step (initial false)).Answered := by
  refine ⟨isRequireMessage_customizedRequest _, ?_⟩
  intro ha
  rw [foldl_append] at ha
  have hf : (connecting.foldl step (initial false)).traffic.forgets
      (connecting.foldl step (initial false)).registry 1 (customizedRequest "UsbConnect") = true := by
    unfold forgets
    rw [messageId_customizedRequest]
    rfl
  have gone : ((connecting.foldl step (initial false)).step
      (.sendMessageWithReply 1 1 1 (customizedRequest "UsbConnect") false)).traffic.toLedger =
      ⟨.empty, 1, []⟩ := by
    simp only [step, respond, fromControl, onTraffic, withReply_forgotten hf]
    rfl
  have ho := ha.owned 0
  rw [foldl_cons, foldl_nil, gone] at ho
  rcases ho (by decide) with ⟨-, globalMessageId, ⟨route, hl, -⟩, -⟩ | ⟨hs, -⟩
  · cases hl
  · cases hs

end Host

end DebugRouter.Daemon
