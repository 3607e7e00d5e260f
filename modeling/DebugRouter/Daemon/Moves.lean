import Mathlib.Logic.Relation
import DebugRouter.Daemon.Step

/-!
What a step of the Host can do to its routes and promises, said once. Every act is a chain of
the moves below, and what the moves preserve holds along every run.
-/
namespace DebugRouter.Daemon

open Library Relation Option OrderedMap JsonText
open MemoizedQueryTable Registry Traffic PendingRouteTable Ledger

structure Request where
  requester : Requester
  clientId : Int
  originalId : SafeInteger
  deriving DecidableEq

def PendingRoute.request (route : PendingRoute) : Request :=
  ⟨route.requester, route.clientId, route.originalId⟩

namespace Ledger
variable (l : Ledger)

def openRoute (route : PendingRoute) : Ledger := { l with routes := (l.routes.add route).1 }

def take (globalMessageId : Nat) (route : PendingRoute) (reason : Removal) : Ledger :=
  { l with
      routes := l.routes.remove globalMessageId reason
      settled := l.settled ++ ((awaitedBy route).map Prod.snd).toList }

def clear (matching : PendingRoute → Bool) : Ledger :=
  let (routes, removed) := l.routes.clearMatching matching
  { l with
      routes := routes
      settled := l.settled ++ (removed.filterMap awaitedBy).map Prod.snd }

inductive Move : Ledger → Ledger → Prop
  | taken {l : Ledger} {globalMessageId : Nat} {route : PendingRoute} (reason : Removal)
      (live : l.routes.get globalMessageId = some route) :
        Move l (l.take globalMessageId route reason)
  | cleared {l : Ledger} (matching : PendingRoute → Bool) : Move l (l.clear matching)

abbrev Moves : Ledger → Ledger → Prop := ReflTransGen Move

/-- A request opens a route, with a promise or without, or its promise is settled at once. `orphans`
tells whether a promise may be made and forgotten. -/
inductive Ask (reaches : Requester → Prop) (request : Option Request) (orphans : Prop) (l : Ledger) :
    Ledger → Prop
  | opened (route : PendingRoute) (asked : request = some route.request)
      (reached : reaches route.requester) (plain : route.promise = none) :
      Ask reaches request orphans l (l.openRoute route)
  | awaited (route : PendingRoute) {controlId : Nat} (asked : request = some route.request)
      (reached : reaches route.requester) (own : route.requester = .control controlId)
      (promised : route.promise = some l.nextPromise) :
      Ask reaches request orphans l { l.openRoute route with nextPromise := l.nextPromise + 1 }
  | refused :
      Ask reaches request orphans l
        { l with nextPromise := l.nextPromise + 1, settled := l.settled ++ [l.nextPromise] }
  | orphaned (orphan : orphans) :
      Ask reaches request orphans l { l with nextPromise := l.nextPromise + 1 }

inductive Turn (reaches : Requester → Prop) (request : Option Request) (orphans : Prop) (l : Ledger) :
    Ledger → Prop
  | moved {l' : Ledger} (moves : Moves l l') : Turn reaches request orphans l l'
  | asked {mid l' : Ledger} (ask : Ask reaches request orphans l mid) (moves : Moves mid l') :
      Turn reaches request orphans l l'

end Ledger

def Registry.reaches (r : Registry) : Requester → Prop
  | .control id => r.controls.has id = true
  | .webSocket id => r.enableWebSocket = true ∧ r.webClients.has id = true

def Registry.Enabled (r : Registry) : Prop := r.server = .stopped ∨ r.enableWebSocket = true

/-- A change that no requester notices. -/
structure Registry.Keeps (r r' : Registry) : Prop where
  enabled : r.Enabled → r'.Enabled
  reached : ∀ q, r.reaches q → r'.reaches q

/- The traffic functions as chains of moves -/

namespace Traffic
variable {r : Registry} {t : Traffic} {reaches : Requester → Prop} {req : Option Request}
variable {orphans : Prop}
variable (l : Ledger) (data : Json) (cid : Int)

theorem get_openRoute (route : PendingRoute) :
    (l.openRoute route).routes.get l.routes.nextGlobalMessageId = some route := by
  simp [Ledger.openRoute, PendingRouteTable.add, PendingRouteTable.get]

theorem forward_ledger (cid : Int) (tgt : Target) (ty : Option String) (fails : Bool) :
    (t.forward data cid tgt ty fails).traffic.toLedger = match messageId data with
      | none => t.toLedger
      | some id =>
        let l := t.toLedger.openRoute ⟨tgt.requester, cid, id, tgt.promise⟩
        if fails then
          { l with routes := l.routes.remove t.routes.nextGlobalMessageId .sendFailure }
        else l := by
  unfold forward rewriteOutboundMessageData messageId
  cases getRoutableCustomizedPayload data with
  | none => cases fails <;> rfl
  | some routable =>
    obtain ⟨pl, id⟩ := routable
    cases fails <;> rfl

theorem forward_error (cid : Int) (tgt : Target) (ty : Option String) (fails : Bool) :
    (t.forward data cid tgt ty fails).error = if fails then some (rpcFailed "send failed")
      else none := by
  unfold forward
  cases fails <;> rfl

/-- The query would join one that is under way, and nothing is remembered to answer it with. -/
def coalesces (t : Traffic) (clientId : Int) (data : Json) : Bool :=
  match getCustomizedType data with
  | none => false
  | some requestType =>
    match notificationTypeOf requestType with
    | none => false
    | some notificationType =>
      (t.memo.getFreshNotification t.clock clientId notificationType).isNone &&
        t.memo.isPending t.clock clientId requestType

/-- The message is for a runtime that is there, has an id, and goes nowhere. -/
def forgets (r : Registry) (t : Traffic) (clientId : Int) (message : Json) : Bool :=
  (messageId message).isSome && (r.appClients.has clientId || r.usbClients.has clientId) &&
    (isLegacyHandshake message || t.coalesces clientId message)

theorem query_cases (t : Traffic) (cid : Int) (data : Json) :
    (t.memo.query t.clock cid data = (t.memo, .notMemoized)) ∨
    (∃ memo ty, t.memo.query t.clock cid data = (memo, .forward ty) ∧
      memo.notifications = t.memo.notifications) ∨
    (∃ nty note,
      t.memo.query t.clock cid data =
        (t.memo, .cached note.message note.parsedValue) ∧
      t.memo.notifications.get? (cid, nty) = some note) ∨
    (t.memo.query t.clock cid data = (t.memo, .pending) ∧ t.coalesces cid data = true) := by
  unfold query coalesces
  cases getCustomizedType data with
  | none => exact .inl rfl
  | some ty =>
    cases hm : notificationTypeOf ty with
    | none => exact .inl (by simp only [hm])
    | some nty =>
      cases hf : t.memo.getFreshNotification t.clock cid nty with
      | some note =>
        refine .inr (.inr (.inl ⟨nty, note, ?_, ?_⟩))
        · simp only [hm, hf]
        · exact (filter_eq_some_iff.mp hf).1
      | none =>
        cases pending : t.memo.isPending t.clock cid ty with
        | true => exact .inr (.inr (.inr (by simp [hm, hf, pending])))
        | false =>
          refine .inr (.inl ⟨(t.memo.clearPending cid ty).markPending t.clock cid
            ty, ty, ?_, rfl⟩)
          simp [hm, hf, pending]

theorem customizedType_rewriteId (cid : Int) :
    getCustomizedType (rewriteClientId data cid) = getCustomizedType data := by
  unfold rewriteClientId
  split
  · unfold getCustomizedType prop
    simp only [Json.get?_modifyAt, String.reduceEq, if_false, if_true]
    cases data.get? "data" with
    | none => rfl
    | some envelope => simp [Json.get?_modifyAt]
  · rfl

inductive Handled (r : Registry) (t : Traffic) (clientId : Int) (message : OutboundMessage)
    (target : Target) (sendFails : Bool) : Sent → Prop
  | refused (error : RpcError) : Handled r t clientId message target sendFails ⟨t, [], some error⟩
  | skipped {data : Json} (decoded : message.decode = some data)
      (known : r.appClients.has clientId || r.usbClients.has clientId)
      (skips : isLegacyHandshake data || t.coalesces clientId data) :
      Handled r t clientId message target sendFails ⟨t, [], none⟩
  | cached {notificationType : String} {notification : MemoizedNotification}
      (found : t.memo.notifications.get? (clientId, notificationType) = some notification) :
      Handled r t clientId message target sendFails
        ⟨(t.sendMessageToTargetDriver r target clientId notification.message
            notification.parsedValue).1,
          (t.sendMessageToTargetDriver r target clientId notification.message
            notification.parsedValue).2, none⟩
  | forwarded {data : Json} (decoded : message.decode = some data) (named : Int)
      (memo : MemoizedQueryTable) (requestType : Option String)
      (kept : memo.notifications = t.memo.notifications) :
      Handled r t clientId message target sendFails
        ({ t with memo := memo }.forward (rewriteClientId data named) clientId target requestType
          sendFails)

theorem toRuntime_handled (r : Registry) (t : Traffic) (cid : Int) (msg : OutboundMessage)
    (tgt : Target) (fails : Bool) :
    Handled r t cid msg tgt fails
      (t.sendMessageToRuntime r cid msg tgt fails) := by
  unfold sendMessageToRuntime
  dsimp only
  split
  next hk =>
    cases hde : msg.decode with
    | none => exact .refused _
    | some data =>
      dsimp only
      split
      next hh => exact .skipped hde hk (by simp [hh])
      · generalize (if r.appClients.has cid then cid else -1) = named
        rcases query_cases t cid (rewriteClientId data named) with
          hd | ⟨memo, ty, hd, hke⟩ | ⟨_, note, hd, hf⟩ |
          ⟨hd, hj⟩ <;> rw [hd]
        · exact .forwarded hde named t.memo none rfl
        · exact .forwarded hde named memo (some ty) hke
        · exact .cached hf
        · refine .skipped hde hk ?_
          unfold coalesces at hj ⊢
          rw [customizedType_rewriteId] at hj
          rw [hj, Bool.or_true]
  · exact .refused _

theorem take_openRoute (rt : PendingRoute) (reason : Removal) : Ledger.Moves (l.openRoute rt)
      ((l.openRoute rt).take l.routes.nextGlobalMessageId rt reason) :=
  .single (.taken reason (get_openRoute l rt))

theorem forward_turn (t : Traffic) (data : Json) (cid : Int) (tgt : Target)
    (ty : Option String) (fails : Bool) (hp : tgt.promise = none)
    (hr : reaches tgt.requester)
    (ha : ∀ id, messageId data = some id → req = some ⟨tgt.requester, cid, id⟩) :
    Ledger.Turn reaches req orphans t.toLedger
      (t.forward data cid tgt ty fails).traffic.toLedger := by
  rw [forward_ledger]
  cases id : messageId data with
  | none => exact .moved .refl
  | some id' =>
    refine .asked (.opened ⟨tgt.requester, cid, id', tgt.promise⟩ (ha id' id) hr hp) ?_
    cases fails with
    | false => exact .refl
    | true =>
      have hd := take_openRoute t.toLedger ⟨tgt.requester, cid, id', tgt.promise⟩ .sendFailure
      have hu : awaitedBy ⟨tgt.requester, cid, id', tgt.promise⟩ = none := by
        unfold awaitedBy
        cases tgt.requester <;> simp [hp]
      rw [take, hu, map_none, toList_none, List.append_nil] at hd
      exact hd

theorem toRuntime_turn (msg : OutboundMessage) (tgt : Target)
    (fails : Bool) (hp : tgt.promise = none) (hr : reaches tgt.requester)
    (ha : ∀ data id, msg.decode = some data → messageId data = some id →
      req = some ⟨tgt.requester, cid, id⟩) :
    Ledger.Turn reaches req orphans t.toLedger
      (t.sendMessageToRuntime r cid msg tgt fails).traffic.toLedger := by
  have hh := toRuntime_handled r t cid msg tgt fails
  generalize t.sendMessageToRuntime r cid msg tgt fails = sent at hh ⊢
  cases hh with
  | refused err | skipped hd hkn hs => exact .moved .refl
  | cached hf =>
    unfold sendMessageToTargetDriver
    rw [hp]
    cases tgt.requester <;> exact .moved .refl
  | @forwarded data hd named memo ty hk =>
    refine forward_turn { t with memo := memo } _ cid tgt ty fails hp hr ?_
    intro id hv
    rw [messageId_rewriteId] at hv
    exact ha data id hd hv

theorem withReply_turn (ctrl rpc : Nat) (cid : Int) (msg : Json) (fails : Bool)
    (hre : reaches (.control ctrl)) (hl : t.forgets r cid msg → orphans) :
    Ledger.Turn reaches ((messageId msg).map (⟨.control ctrl, cid, ·⟩)) orphans
      t.toLedger (t.sendMessageWithReply r ctrl rpc cid msg fails).1.toLedger := by
  unfold sendMessageWithReply
  cases hr : getRoutableCustomizedPayload msg with
  | none =>
    have hsi : messageId msg = none := by simp [messageId, hr]
    refine toRuntime_turn cid _ _ fails rfl hre ?_
    intro data id hd hv
    cases hd
    rw [messageId_clone, hsi] at hv
    cases hv
  | some found =>
    have hv : messageId msg = some found.2 := by simp [messageId, hr]
    rw [hv, map_some]
    dsimp only
    have hh := toRuntime_handled r { t with nextPromise := t.nextPromise + 1 } cid
      (.value msg) ⟨.control ctrl, some t.nextPromise⟩ fails
    generalize sendMessageToRuntime r { t with nextPromise := t.nextPromise + 1 } cid
      (.value msg) ⟨.control ctrl, some t.nextPromise⟩ fails = sent at hh ⊢
    cases hh with
    | refused err | cached found => exact .asked .refused .refl
    | skipped hd hkn hs =>
      cases hd
      refine .asked (.orphaned (hl ?_)) .refl
      rw [handshake_clone] at hs
      unfold coalesces at hs
      rw [customizedType_clone] at hs
      unfold forgets coalesces
      rw [hv, hkn, hs]
      rfl
    | @forwarded data hd named memo ty _ =>
      cases hd
      have hk : messageId (rewriteClientId (cloneJsonValue msg) named) = some found.2 := by
        rw [messageId_rewriteId, messageId_clone, hv]
      refine .asked (.awaited ⟨.control ctrl, cid, found.2, some t.nextPromise⟩ rfl hre rfl rfl) ?_
      rw [forward_error]
      cases fails with
      | false =>
        simp only [Bool.false_eq_true, if_false, forward_ledger, hk]
        exact .refl
      | true =>
        simp only [if_true, settle, forward_ledger, hk]
        exact take_openRoute { t.toLedger with nextPromise := t.nextPromise + 1 }
          ⟨.control ctrl, cid, found.2, some t.nextPromise⟩ .sendFailure

theorem withoutReply_turn (ctrl rpc : Nat) (toWeb : Bool) (cid : Int)
    (msg : Json) (fails : Bool) (hr : reaches (.control ctrl))
    (ha : toWeb = false → ∀ data id,
      parse (outboundText msg) = some data →
      messageId data = some id → req = some ⟨.control ctrl, cid, id⟩) :
    Ledger.Turn reaches req orphans t.toLedger
      (t.sendMessageWithoutReply r ctrl rpc toWeb cid msg fails).1.toLedger := by
  unfold sendMessageWithoutReply
  cases toWeb with
  | true => exact .moved .refl
  | false => exact toRuntime_turn cid _ _ fails rfl hr (ha rfl)

theorem runtimeMessage_moves (msg : String) (source : MessageSource) :
    Ledger.Moves t.toLedger (t.handleRuntimeMessage r cid msg source).1.toLedger := by
  unfold handleRuntimeMessage
  dsimp only
  split
  · exact .refl
  next payload gid hro =>
    cases hf : t.routeOf gid with
    | none => exact .refl
    | some route =>
      dsimp only
      split
      · have hl : t.routes.get gid.1.toNat = some route := by
          unfold routeOf at hf
          split at hf
          · exact hf
          · cases hf
        have ht : Ledger.Moves t.toLedger (t.toLedger.take gid.1.toNat route .reply) :=
          .single (.taken .reply hl)
        unfold take awaitedBy at ht
        unfold deliverReply settle
        cases hr : route.requester with
        | webSocket id => simpa [hr] using ht
        | control id => cases hp : route.promise <;> simpa [hr, hp] using ht
      · exact .refl

theorem onRouteTimeout_moves (gid : Nat) :
    Ledger.Moves t.toLedger (t.onRouteTimeout gid).1.toLedger := by
  unfold onRouteTimeout
  cases hl : t.routes.get gid with
  | none => exact .refl
  | some rt =>
    have ht : Ledger.Moves t.toLedger (t.toLedger.take gid rt .timeout) :=
      .single (.taken .timeout hl)
    unfold take at ht
    unfold rejectRoutes
    cases ha : awaitedBy rt <;> simpa [ha] using ht

end Traffic

/- Acts as chains of moves -/

def HostAct.request : HostAct → Option Request
  | .sendMessageWithReply controlId _ clientId message _ =>
    (messageId message).map (⟨.control controlId, clientId, ·⟩)
  | .sendMessageWithoutReply controlId _ false clientId message _ => do
    (messageId (← parse (outboundText message))).map (⟨.control controlId, clientId, ·⟩)
  | .webSocketMessage id message _ => do
    let data ← parse message
    let clientId ← (orElse (prop (innerData data) "client_id") (Json.ofInt (-1))).safeInteger?
    (messageId data).map (⟨.webSocket id, clientId, ·⟩)
  | _ => none

namespace Host

def orphans (h : Host) : HostAct → Prop
  | .sendMessageWithReply controlId _ clientId message _ =>
    h.registry.controls.has controlId ∧ h.traffic.forgets h.registry clientId message
  | _ => False

/-- `left` is the departure of a requester, whose routes go with it. -/
inductive Move : Host → Host → Prop
  | traffic {r : Registry} {t t' : Traffic} (moves : Ledger.Moves t.toLedger t'.toLedger) :
      Move ⟨r, t⟩ ⟨r, t'⟩
  | registry {r r' : Registry} {t : Traffic} (kept : r.Keeps r') : Move ⟨r, t⟩ ⟨r', t⟩
  | left {r r' : Registry} {t t' : Traffic} (gone : Requester) (enabled : r.Enabled → r'.Enabled)
      (kept : ∀ q, q ≠ gone → r.reaches q → r'.reaches q)
      (cleared : t'.toLedger = t.toLedger.clear fun route => route.requester = gone) :
      Move ⟨r, t⟩ ⟨r', t'⟩

abbrev Moves : Host → Host → Prop := ReflTransGen Move

inductive Turn (request : Option Request) (orphans : Prop) (h : Host) : Host → Prop
  | moved {h' : Host} (moves : Moves h h') : Turn request orphans h h'
  | traffic {t : Traffic}
      (turn : Ledger.Turn h.registry.reaches request orphans h.traffic.toLedger t.toLedger) :
      Turn request orphans h ⟨h.registry, t⟩

variable {req : Option Request} {orphans : Prop} {h : Host}

theorem moves_seq {x : Host × List Output} {next : Host → Host × List Output}
    (hb : Moves h x.1) (ha : Moves x.1 (next x.1).1) :
    Moves h (seq x next).1 := hb.trans ha

theorem moves_setRegistry {f : Registry → Registry} (hk : h.registry.Keeps (f h.registry)) :
    Moves h (h.setRegistry f).1 := .single (.registry hk)

theorem moves_onTraffic {f : Registry → Traffic → Traffic × List Output}
    (hm : Ledger.Moves h.traffic.toLedger
      (f h.registry h.traffic).1.toLedger) :
    Moves h (h.onTraffic f).1 := .single (.traffic hm)

theorem keeps_sendSnapshot (r : Registry) (controlIds : List Nat) :
    r.Keeps (r.sendSnapshot controlIds).1 := by
  refine ⟨id, ?_⟩
  intro q hr
  cases q with
  | control id => simpa [reaches, sendSnapshot] using hr
  | webSocket id => exact hr

theorem moves_snapshotTo (controlIds : List Nat) : Moves h (h.snapshotTo controlIds).1 :=
  .single (.registry (keeps_sendSnapshot h.registry controlIds))

theorem moves_publish : Moves h (h.onRegistry publishClientSnapshot).1 :=
  moves_snapshotTo h.registry.controls.keys

theorem moves_forgetRuntime (cid : Int) : Moves h (h.forgetRuntime cid).1 :=
  moves_onTraffic (.single (.cleared _))

variable {r r' : Registry} {id : Int} {ctrl : Nat}

theorem reaches_mono (hc : ∀ id, r.controls.has id → r'.controls.has id)
    (he : r.enableWebSocket → r'.enableWebSocket)
    (web : ∀ id, r.webClients.has id → r'.webClients.has id) (q : Requester) (hr : r.reaches q) :
    r'.reaches q := by
  cases q with
  | control id => exact hc id hr
  | webSocket id => exact ⟨he hr.1, web id hr.2⟩

theorem moves_registerDevice (dv : Device) : Moves h (h.registerDevice dv).1 := by
  unfold registerDevice
  split
  · exact .refl
  · refine moves_seq (moves_setRegistry ⟨id, fun _ => id⟩) ?_
    split
    · exact moves_snapshotTo _
    · exact .refl

theorem moves_unregisterUsb (id : Int) : Moves h (h.unregisterUsbClient id).1 := by
  unfold unregisterUsbClient handleClientDisconnected
  split
  · refine moves_seq (moves_setRegistry ⟨fun he => he, fun _ hr => hr⟩) ?_
    split
    · exact moves_seq (moves_forgetRuntime id) moves_publish
    · exact .refl
  · exact .refl

theorem moves_unregisterUsbs (ids : List Int) (h : Host) :
    Moves h (unregisterUsbClients ids h).1 := by
  induction ids generalizing h with
  | nil => exact .refl
  | cons id xs ih => exact moves_seq (moves_unregisterUsb id) (ih _)

theorem moves_unregisterDevice (sn : String) (closed : List Int) :
    Moves h (h.unregisterDevice sn closed).1 := by
  unfold unregisterDevice
  split
  · refine moves_seq (moves_seq (moves_setRegistry ⟨id, fun _ => id⟩)
      (moves_unregisterUsbs closed _)) ?_
    split
    · exact moves_snapshotTo _
    · exact .refl
  · exact .refl

theorem keeps_createId (r : Registry) : r.Keeps r.createClientId.1 := by
  unfold createClientId
  split <;> exact ⟨id, fun _ => id⟩

theorem moves_registerUsb (port : UInt16) (query : ClientQuery) :
    Moves h (h.registerUsbClient port query).1 := by
  have hk := keeps_createId h.registry
  unfold registerUsbClient
  dsimp only
  split
  · exact .single (.registry hk)
  · refine moves_seq (moves_setRegistry ⟨hk.enabled, hk.reached⟩) ?_
    split
    · exact moves_publish
    · exact .refl

theorem moves_ownershipLost : Moves h h.ownershipLost.1 := by
  unfold ownershipLost handleLegacyOwnershipLost
  split
  · refine moves_seq (moves_seq (moves_setRegistry ⟨id, fun _ => id⟩) ?_) .refl
    refine moves_seq (moves_seq (moves_seq ?_ (moves_setRegistry ⟨id, fun _ => id⟩))
      (moves_snapshotTo _)) .refl
    exact moves_onTraffic (.single (.cleared _))
  · exact .refl

theorem moves_controlConnected (ws : Bool) : Moves h (h.controlConnected ws).1 := by
  unfold controlConnected
  refine moves_seq (moves_seq (moves_seq (moves_setRegistry ?_) (moves_snapshotTo _)) .refl)
    (moves_setRegistry ?_)
  · exact ⟨id, reaches_mono (fun id has => by simp [has_set, has]) id fun _ => id⟩
  · refine ⟨?_, reaches_mono (fun _ => id) (fun enabled => by simp [enabled]) fun _ => id⟩
    rintro (hs | enabled)
    · exact .inl hs
    · exact .inr (by simp [enabled])

theorem moves_controlDisconnected (id : Nat) : Moves h (h.controlDisconnected id).1 := by
  refine .single (.left (.control id) (fun he => he) ?_ rfl)
  intro q ha hr
  cases q with
  | webSocket _ => exact hr
  | control other =>
    have apart : id ≠ other := fun hs => ha (congrArg _ hs.symm)
    have hp : h.registry.controls.has other = true := hr
    have kept : (h.registry.controls.delete id).has other = true := by simp [has_delete, apart, hp]
    exact kept

theorem moves_physicalAnswered (ctrl rpc : Nat) : Moves h (h.physicalAnswered ctrl rpc).1 := by
  unfold physicalAnswered
  split
  · exact moves_seq (moves_setRegistry ⟨id, fun _ => id⟩) .refl
  · exact moves_seq (moves_seq (moves_setRegistry ⟨id, fun _ => id⟩) moves_publish) .refl
  · exact .refl

/- The WebSocket server. Before it is started there is no Driver to lose. -/

theorem webClients_started {i : WebSocketServerInfo} {ctl : WebSocketController} {unreg : List Int}
    (h : r.server = .started i ctl unreg) :
    r.webClients = ctl.webClients := by
  simp [webClients, webSocketController, h]

theorem webClients_starting {waiting : List (Nat × Nat)} {created : Bool}
    (h : r.server = .starting waiting created) : r.webClients = .empty := by
  cases created <;> simp [webClients, webSocketController, h, WebSocketController.empty]

theorem keeps_of_idle (hi : r.webClients = .empty) (he : r.Enabled → r'.Enabled)
    (hc : ∀ id, r.controls.has id → r'.controls.has id) : r.Keeps r' := by
  refine ⟨he, ?_⟩
  intro q hr
  cases q with
  | control id => exact hc id hr
  | webSocket id =>
    have ha := hr.2
    rw [hi] at ha
    cases ha

theorem enabled_of_running (hs : r'.enableWebSocket = r.enableWebSocket)
    (hr : r.server ≠ .stopped) (he : r.Enabled) : r'.Enabled :=
  .inr (hs.trans (he.resolve_left hr))

theorem moves_startWSServer (ctrl rpc : Nat) : Moves h (h.startWSServer ctrl rpc).1 := by
  have added : h.registry.Keeps (addRequester h.registry ctrl) := by
    unfold addRequester
    split <;> exact ⟨id, fun _ => id⟩
  have same : (addRequester h.registry ctrl).enableWebSocket = h.registry.enableWebSocket := by
    unfold addRequester
    split <;> rfl
  unfold startWSServer
  split
  next he =>
    refine moves_seq (moves_setRegistry added) ?_
    have on : (addRequester h.registry ctrl).enableWebSocket = true := same.trans he
    split
    · exact moves_seq (moves_snapshotTo _) .refl
    next hs =>
      exact moves_setRegistry (keeps_of_idle (webClients_starting hs) (fun _ => .inr on)
        fun _ => id)
    next hs =>
      refine moves_setRegistry (keeps_of_idle ?_ (fun _ => .inr on) fun _ => id)
      simp [webClients, webSocketController, hs]
  · exact .refl

theorem moves_answerStarted (i : WebSocketServerInfo) (waiting : List (Nat × Nat)) (h : Host) :
    Moves h (answerStarted i waiting h).1 := by
  induction waiting generalizing h with
  | nil => exact .refl
  | cons call xs ih => exact moves_seq (moves_seq (moves_snapshotTo _) .refl) (ih _)

theorem moves_serverStarted (i : WebSocketServerInfo) : Moves h (h.webSocketServerStarted i).1 := by
  unfold webSocketServerStarted
  split
  next hs =>
    refine moves_seq (moves_setRegistry ?_) (moves_answerStarted i _ _)
    exact keeps_of_idle (webClients_starting hs)
      (enabled_of_running rfl (by simp [hs])) fun _ => id
  · exact .refl

theorem moves_wsOpened : Moves h h.webSocketOpened.1 := by
  unfold webSocketOpened
  split
  next hs =>
    have hk := keeps_createId h.registry
    refine moves_setRegistry ⟨?_, ?_⟩
    · intro he
      have hsa : h.registry.createClientId.1.enableWebSocket = h.registry.enableWebSocket := by
        unfold createClientId
        split <;> rfl
      exact enabled_of_running (r := h.registry) hsa (by simp [hs]) he
    · intro q hr
      cases q with
      | control id => exact hk.reached (.control id) hr
      | webSocket id =>
        refine ⟨(hk.reached (.webSocket id) hr).1, ?_⟩
        rw [webClients_started rfl, ← webClients_started hs]
        exact hr.2
  · exact .refl

theorem moves_wsRegistered (i : WebSocketClientInfo) : Moves h (h.webSocketRegistered i).1 := by
  unfold webSocketRegistered
  split
  next hs =>
    split
    · refine moves_seq (moves_seq (moves_setRegistry ?_) (moves_snapshotTo _)) .refl
      refine ⟨enabled_of_running rfl (by simp [hs]), ?_⟩
      refine reaches_mono (fun _ => id) id ?_
      intro id has
      rw [webClients_started hs] at has
      rw [webClients_started rfl]
      unfold WebSocketController.add
      split
      · simp [has_set, has]
      · exact has
    · exact .refl
  · exact .refl

theorem reaches_update {f : WebSocketController → WebSocketController}
    {q : Requester} (hr : r.reaches q)
    (hk : ∀ id ctl, q = .webSocket id → ctl.webClients.has id →
      (f ctl).webClients.has id) : (updateController f r).reaches q := by
  unfold updateController
  cases hs : r.server with
  | stopped | starting waiting created => exact hr
  | started i ctl unreg =>
    cases q with
    | control id => exact hr
    | webSocket id =>
      refine ⟨hr.1, ?_⟩
      rw [webClients_started rfl]
      apply hk id ctl rfl
      rw [← webClients_started hs]
      exact hr.2

theorem enabled_update {f : WebSocketController → WebSocketController}
    (h : r.Enabled) : (updateController f r).Enabled := by
  unfold updateController
  split
  next hs => exact enabled_of_running (r := r) rfl (by simp [hs]) h
  · exact h

theorem moves_removeAppClient (id : Int) : Moves h (h.removeAppClient id).1 := by
  unfold removeAppClient
  split
  · refine moves_seq (moves_seq (moves_setRegistry ?_) (moves_forgetRuntime id)) (moves_snapshotTo _)
    refine ⟨enabled_update, ?_⟩
    intro q hr
    exact reaches_update hr fun _ _ _ has => has
  · exact .refl

theorem moves_removeWebClient (id : Int) : Moves h (h.removeWebClient id).1 := by
  unfold removeWebClient
  split
  · refine moves_seq (.single (.left (.webSocket id) enabled_update ?_ ?_)) (moves_snapshotTo _)
    · intro q ha hr
      refine reaches_update hr ?_
      intro other controller hn has
      have apart : id ≠ other := fun hs => ha (hs ▸ hn)
      simp [WebSocketController.removeWeb, OrderedMap.has_delete, has, apart]
    · -- routes of a Driver hold no promise
      have hu : ((h.traffic.routes.clearByWebClientId id).2.filterMap Traffic.awaitedBy) = [] := by
        rw [List.filterMap_eq_nil_iff]
        intro route hre
        obtain ⟨entry, hi, rfl⟩ := List.mem_map.mp hre
        have own : entry.2.requester = .webSocket id := by simpa using (List.mem_filter.mp hi).2
        simp [Traffic.awaitedBy, own]
      unfold PendingRouteTable.clearByWebClientId at hu
      simp [Ledger.clear, hu, setRegistry, PendingRouteTable.clearByWebClientId]
  · exact .refl

theorem driver_known {i : WebSocketClientInfo}
    (hk : (r.webClients.get? id).or (r.appClients.get? id) = some i) (hd : i.isDriver) :
    i.id = id ∧ r.webClients.has id = true ∧ r.server ≠ .stopped := by
  unfold webClients appClients at *
  cases hc : r.webSocketController with
  | none => simp [hc] at hk
  | some c =>
    simp only [hc, map_some, getD_some, or_eq_some_iff] at hk ⊢
    have hr : r.server ≠ .stopped := by
      intro stopped
      simp [webSocketController, stopped] at hc
    rcases hk with hf | ⟨-, hf⟩
    · exact ⟨(c.drivers id i hf).1, has_iff.mpr ⟨i, hf⟩, hr⟩
    · simp [(c.apps id i hf).2] at hd

theorem turn_customizedMessage {i : WebSocketClientInfo} {data : Json}
    {msg : String} (fails : Bool) (he : h.registry.Enabled)
    (hk : (h.registry.webClients.get? id).or (h.registry.appClients.get? id) = some i)
    (hp : parse msg = some data) :
    Turn (HostAct.webSocketMessage id msg fails).request orphans h
      (h.handleCustomizedMessage i data msg fails).1 := by
  unfold handleCustomizedMessage
  split
  next hdr =>
    obtain ⟨rfl, has, hr⟩ := driver_known hk hdr
    split
    next cid hn =>
      split
      · exact .moved .refl
      · refine .traffic (toRuntime_turn cid (.text msg)
          ⟨.webSocket i.id, none⟩ fails rfl ⟨he.resolve_left hr, has⟩ ?_)
        intro v oid hd hv
        have hs : v = data := some.inj (hd.symm.trans hp)
        subst hs
        simp [HostAct.request, hp, hn, hv]
    · exact .moved .refl
  · dsimp only
    split
    · exact .moved (moves_onTraffic (runtimeMessage_moves _ _ _))
    · exact .moved .refl

theorem turn_wsMessage (id : Int) (msg : String) (fails : Bool)
    (he : h.registry.Enabled) :
    Turn (HostAct.webSocketMessage id msg fails).request orphans h
      (h.webSocketMessage id msg fails).1 := by
  unfold webSocketMessage
  split
  next i hk =>
    unfold handleMessage
    split
    · exact .moved .refl
    next v hp =>
      dsimp only [seq, say]
      split
      · exact .moved .refl
      split
      · exact .moved .refl
      split
      · exact turn_customizedMessage fails he hk hp
      · exact .moved .refl
  · exact .moved .refl

theorem moves_fromControl {handled : Host × List Output} (hm : Moves h handled.1) :
    Moves h (h.fromControl ctrl handled).1 := by
  unfold fromControl
  split
  · exact hm
  · exact .refl

theorem turn_fromControl {f : Registry → Traffic → Traffic × List Output}
    (ht : h.registry.reaches (.control ctrl) →
      Ledger.Turn h.registry.reaches req orphans h.traffic.toLedger
        (f h.registry h.traffic).1.toLedger) :
    Turn req orphans h (h.fromControl ctrl (h.onTraffic f)).1 := by
  unfold fromControl
  split
  next hc => exact .traffic (ht hc)
  · exact .moved .refl

theorem moves_connectUsb (ctrl rpc : Nat) (dev : String) :
    Moves h (h.connectUsbClients ctrl rpc dev).1 := by
  unfold connectUsbClients
  split
  · split
    · exact moves_setRegistry ⟨id, fun _ => id⟩
    · exact .refl
  · exact .refl

theorem step_turn (he : h.registry.Enabled) (act : HostAct) :
    Turn act.request (h.orphans act) h (h.step act) := by
  cases act with
  | registerDevice dv => exact .moved (moves_registerDevice dv)
  | unregisterDevice sn closed => exact .moved (moves_unregisterDevice sn closed)
  | registerUsbClient port dv i => exact .moved (moves_registerUsb port _)
  | unregisterUsbClient id => exact .moved (moves_unregisterUsb id)
  | usbClientMessage id msg =>
    simp only [step, respond, handleUsbClientMessage]
    refine .moved ?_
    split
    · exact moves_onTraffic (runtimeMessage_moves _ _ _)
    · exact .refl
  | ownershipAttached ann => exact .moved (moves_seq (moves_setRegistry ⟨id, fun _ => id⟩) .refl)
  | ownershipLost => exact .moved moves_ownershipLost
  | controlConnected ws => exact .moved (moves_controlConnected ws)
  | controlDisconnected ctrl => exact .moved (moves_controlDisconnected ctrl)
  | connectDevices ctrl rpc sn =>
    exact .moved (moves_fromControl (moves_setRegistry ⟨id, fun _ => id⟩))
  | connectUsbClients ctrl rpc dev =>
    exact .moved (moves_fromControl (moves_connectUsb ctrl rpc dev))
  | physicalFound ctrl rpc selected =>
    simp only [step, respond, physicalFound]
    refine .moved ?_
    split
    · exact moves_setRegistry ⟨id, fun _ => id⟩
    · exact .refl
  | physicalAnswered ctrl rpc => exact .moved (moves_physicalAnswered ctrl rpc)
  | physicalFailed ctrl rpc msg =>
    simp only [step, respond, physicalFailed]
    refine .moved ?_
    split
    · exact moves_seq (moves_setRegistry ⟨id, fun _ => id⟩) .refl
    · exact .refl
  | watchersStarted ctrl rpc => exact .moved (moves_seq moves_publish .refl)
  | forceDisableAllClients ctrl rpc closed =>
    exact .moved (moves_seq (moves_unregisterUsbs closed h) (moves_seq moves_publish .refl))
  | startWSServer ctrl rpc => exact .moved (moves_fromControl (moves_startWSServer ctrl rpc))
  | webSocketControllerCreated =>
    simp only [step, respond, webSocketControllerCreated]
    refine .moved ?_
    split
    next hs =>
      exact moves_setRegistry (keeps_of_idle (webClients_starting hs)
        (enabled_of_running rfl (by simp [hs])) fun _ => id)
    · exact .refl
  | webSocketServerStarted i => exact .moved (moves_serverStarted i)
  | webSocketStartFailed =>
    simp only [step, respond, webSocketStartFailed]
    refine .moved ?_
    split
    next hs =>
      exact moves_setRegistry (keeps_of_idle (webClients_starting hs)
        (enabled_of_running rfl (by simp [hs])) fun _ => id)
    · exact .refl
  | webSocketStartRejected msg =>
    simp only [step, respond, webSocketStartRejected]
    refine .moved ?_
    split
    next hs =>
      exact moves_seq (moves_setRegistry (keeps_of_idle (webClients_starting hs)
        (fun _ => .inl rfl) fun _ => id)) .refl
    · exact .refl
  | webSocketOpened => exact .moved moves_wsOpened
  | webSocketRegistered id data => exact .moved (moves_wsRegistered _)
  | webSocketClosed id =>
    exact .moved (moves_seq (moves_seq (moves_removeAppClient id) (moves_removeWebClient id)) .refl)
  | webSocketMessage id msg fails => exact turn_wsMessage id msg fails he
  | sendMessageWithReply ctrl rpc cid msg fails =>
    exact turn_fromControl fun hc => withReply_turn ctrl rpc cid
      msg fails hc fun hl => ⟨hc, hl⟩
  | sendMessageWithoutReply ctrl rpc toWeb cid msg fails =>
    refine turn_fromControl fun hc => withoutReply_turn ctrl rpc toWeb
      cid msg fails hc ?_
    rintro rfl data oid hp hv
    simp [HostAct.request, hp, hv]
  | routeTimeout gid => exact .moved (moves_onTraffic (onRouteTimeout_moves gid))
  | memoRetry cid ty retried | tick el => exact .moved (moves_onTraffic .refl)

end Host

end DebugRouter.Daemon
