import DebugRouter.Daemon.Ownership
import DebugRouter.Daemon.Replies

/-!
Which runtimes and requesters the Host's tables name. Whoever leaves while ownership is attached is
forgotten with it. A USB runtime that leaves while it is not is only taken from the registry, and
requests to it are taken even then.
-/
namespace DebugRouter.Daemon

open Library Option OrderedMap MemoizedQueryTable Registry Traffic Ledger

namespace MemoizedQueryTable
variable {table : MemoizedQueryTable} {now : Nat} {clientId id : Int}

/-- A cached notification of the runtime or a pending query to it, with its retry timer. -/
def names (table : MemoizedQueryTable) (id : Int) : Prop :=
  ∃ type, table.notifications.has (id, type) = true ∨ table.pendingQueries.has (id, type) = true

variable {requestType : String} {value : Json}

theorem names_clearPending (h : (table.clearPending clientId requestType).names id) :
    table.names id := by
  obtain ⟨type, hn | pending⟩ := h
  · exact ⟨type, .inl hn⟩
  · simp only [clearPending, has_delete, Bool.and_eq_true] at pending
    exact ⟨type, .inr pending.1⟩

theorem names_markPending (h : (table.markPending now clientId requestType).names id) :
    table.names id ∨ id = clientId := by
  obtain ⟨type, hn | pending⟩ := h
  · exact .inl ⟨type, .inl hn⟩
  · simp only [markPending, has_set, Bool.or_eq_true, decide_eq_true_eq, Prod.mk.injEq] at pending
    rcases pending with old | ⟨hs, -⟩
    · exact .inl ⟨type, .inr old⟩
    · exact .inr hs.symm

theorem names_query {msg : Json} (h : (table.query now clientId msg).1.names id) :
    table.names id ∨ id = clientId := by
  unfold query at h
  split at h
  · exact .inl h
  · split at h
    · exact .inl h
    · split at h
      · exact .inl h
      · split at h
        · exact .inl h
        · rcases names_markPending h with old | same
          · exact .inl (names_clearPending old)
          · exact .inr same

theorem names_setPending {key : Int × String} {query : PendingQuery}
    (hp : table.pendingQueries.has key = true)
    (h : names { table with pendingQueries := table.pendingQueries.set key query } id) :
    table.names id := by
  obtain ⟨type, hn | pending⟩ := h
  · exact ⟨type, .inl hn⟩
  · simp only [has_set, Bool.or_eq_true, decide_eq_true_eq] at pending
    rcases pending with old | same
    · exact ⟨type, .inr old⟩
    · exact ⟨type, .inr (same ▸ hp)⟩

theorem names_setRetryTimer {msg : Json}
    (h : (table.setRetryTimer clientId requestType msg).names id) : table.names id := by
  unfold setRetryTimer at h
  split at h
  next q hf => exact names_setPending (has_iff.mpr ⟨q, hf⟩) h
  · exact h

theorem names_onRetryTimer {retried : Bool}
    (h : (table.onRetryTimer now clientId requestType retried).1.names id) : table.names id := by
  unfold onRetryTimer at h
  split at h
  next msg ha =>
    obtain ⟨q, hf, -⟩ := bind_eq_some_iff.mp ha
    split at h
    · exact names_setPending (has_iff.mpr ⟨q, hf⟩) h
    · exact names_clearPending h
  · exact h

theorem names_record {msg : String}
    (h : (table.recordNotification now clientId msg value).names id) : table.names id ∨
    id = clientId := by
  unfold recordNotification at h
  split at h
  · exact .inl h
  · split at h
    · exact .inl h
    · obtain ⟨type, hn | pending⟩ := names_clearPending h
      · simp only [has_set, Bool.or_eq_true, decide_eq_true_eq, Prod.mk.injEq] at hn
        rcases hn with old | ⟨hs, -⟩
        · exact .inl ⟨type, .inl old⟩
        · exact .inr hs.symm
      · exact .inl ⟨type, .inr pending⟩

def Remembered (value : Json) : Prop :=
  ∃ type, getCustomizedType value = some type ∧ (requestTypeOf type).isSome

theorem record_other {msg : String} (h : ¬ Remembered value) :
    table.recordNotification now clientId msg value = table := by
  unfold recordNotification
  split
  · rfl
  next type hc =>
    split
    · rfl
    next requestType hk => exact absurd ⟨type, hc, by rw [hk]; rfl⟩ h

theorem names_of_remembered {msg : String} (h : Remembered value) :
    (table.recordNotification now clientId msg value).names clientId := by
  obtain ⟨type, hc, hk⟩ := h
  obtain ⟨requestType, hk⟩ := isSome_iff_exists.mp hk
  refine ⟨type, .inl ?_⟩
  simp only [recordNotification, hc, hk, clearPending, has_set, decide_true, Bool.or_true]

theorem names_clearClient (h : (table.clearClient clientId).names id) :
    table.names id ∧ id ≠ clientId := by
  obtain ⟨type, hn | pending⟩ := h
  · obtain ⟨v, hf⟩ := has_iff.mp hn
    obtain ⟨old, ha⟩ := get?_filter_eq_some.mp hf
    exact ⟨⟨type, .inl (has_iff.mpr ⟨v, old⟩)⟩, by simpa using ha⟩
  · obtain ⟨v, hf⟩ := has_iff.mp pending
    obtain ⟨old, ha⟩ := get?_filter_eq_some.mp hf
    exact ⟨⟨type, .inr (has_iff.mpr ⟨v, old⟩)⟩, by simpa using ha⟩

theorem not_names_clear : ¬ table.clear.names id := by
  rintro ⟨type, hn | pending⟩
  · cases hn
  · cases pending

end MemoizedQueryTable

namespace Traffic
variable {r : Registry} {t : Traffic} {clientId id : Int}

def routesTo (t : Traffic) (id : Int) : Prop :=
  ∃ globalMessageId route, t.routes.get globalMessageId = some route ∧ route.clientId = id

/-- A route, a cached notification or a pending query names the runtime. -/
def names (t : Traffic) (id : Int) : Prop := t.routesTo id ∨ t.memo.names id

variable {t' : Traffic} {data : Json} {target : Target} {requestType : Option String}
variable {sendFails : Bool}

theorem routesTo_of_moves (hm : Ledger.Moves t.toLedger t'.toLedger) (hr : t'.routesTo id) :
    t.routesTo id := by
  obtain ⟨gid, rt, hli, hl⟩ := hr
  exact ⟨gid, rt, live_before_moves hm hli, hl⟩

theorem names_of_moves (hm : Ledger.Moves t.toLedger t'.toLedger) (hs : t'.memo = t.memo)
    (hn : t'.names id) : t.names id := by
  rcases hn with hr | remembered
  · exact .inl (routesTo_of_moves hm hr)
  · exact .inr (hs ▸ remembered)

theorem routesTo_forward
    (h : (t.forward data clientId target requestType sendFails).traffic.routesTo id) :
    t.routesTo id ∨ id = clientId := by
  obtain ⟨gid, route, hl, rfl⟩ := h
  rw [congrArg routes (forward_ledger data clientId target requestType sendFails)] at hl
  split at hl
  · exact .inl ⟨gid, route, hl, rfl⟩
  next original hi =>
    have opened : (t.toLedger.openRoute
        ⟨target.requester, clientId, original, target.promise⟩).routes.get
        gid = some route := by
      split at hl
      · dsimp only at hl
        rw [get_remove] at hl
        split at hl
        · cases hl
        · exact hl
      · exact hl
    rcases get_openRoute_cases opened with old | rfl
    · exact .inl ⟨gid, route, old, rfl⟩
    · exact .inr rfl

theorem memo_rewriteOutbound (t : Traffic) (data : Json) (clientId : Int) (target : Target) :
    (t.rewriteOutboundMessageData data clientId target).1.memo = t.memo := by
  unfold rewriteOutboundMessageData
  split <;> rfl

theorem memo_names_forward
    (h : (t.forward data clientId target requestType sendFails).traffic.memo.names id) :
    t.memo.names id := by
  have hs := memo_rewriteOutbound t data clientId target
  unfold forward at h
  dsimp only at h
  split at h
  · cases requestType with
    | none => exact hs ▸ h
    | some type => exact hs ▸ names_clearPending h
  · cases requestType with
    | none => exact hs ▸ h
    | some type => exact hs ▸ names_setRetryTimer h

theorem names_forward (h : (t.forward data clientId target requestType sendFails).traffic.names id) :
    t.names id ∨ id = clientId := by
  rcases h with hr | remembered
  · exact (routesTo_forward hr).imp_left .inl
  · exact .inl (.inr (memo_names_forward remembered))

theorem names_toTargetDriver {msg : String} {value : Json}
    (h : (t.sendMessageToTargetDriver r target clientId msg value).1.names id) : t.names id := by
  unfold sendMessageToTargetDriver settle at h
  split at h <;> exact h

end Traffic

def Registry.present (r : Registry) (id : Int) : Bool := r.usbClients.has id || r.appClients.has id

def Registry.connected (r : Registry) : Requester → Prop
  | .control id => r.controls.has id = true
  | .webSocket id => r.webClients.has id = true

namespace Traffic
variable {r : Registry} {t : Traffic} {clientId id : Int}
variable {sendFails : Bool} {ctrl rpc : Nat} {value : Json} {source : MessageSource}

theorem names_toRuntime {msg : OutboundMessage} {target : Target}
    (h : (t.sendMessageToRuntime r clientId msg target sendFails).traffic.names id) :
    t.names id ∨ r.present id = true := by
  unfold sendMessageToRuntime at h
  dsimp only at h
  split at h
  next hk =>
    have hh : id = clientId → r.present id = true := by
      rintro rfl
      rw [Bool.or_comm] at hk
      exact hk
    split at h
    · exact .inl h
    next data hd =>
      split at h
      · exact .inl h
      · have hq : ∀ {data : Json},
            names { t with memo := (t.memo.query t.clock clientId data).1 } id →
              t.names id ∨ id = clientId := by
          rintro data (hr | remembered)
          · exact .inl (.inl hr)
          · exact (names_query remembered).imp_left .inr
        split at h
        · exact (hq (names_toTargetDriver h)).imp_right hh
        · exact (hq h).imp_right hh
        · rcases names_forward h with old | same
          · exact (hq old).imp_right hh
          · exact .inr (hh same)
        · rcases names_forward h with old | same
          · exact (hq old).imp_right hh
          · exact .inr (hh same)
  · exact .inl h

theorem names_withReply {msg : Json}
    (h : (t.sendMessageWithReply r ctrl rpc clientId msg sendFails).1.names id) :
    t.names id ∨ r.present id = true := by
  unfold sendMessageWithReply at h
  split at h
  · exact names_toRuntime h
  · dsimp only at h
    split at h
    · exact names_toRuntime (t := { t with nextPromise := t.nextPromise + 1 }) h
    · exact names_toRuntime (t := { t with nextPromise := t.nextPromise + 1 }) h

theorem names_withoutReply {toWeb : Bool} {msg : Json}
    (h : (t.sendMessageWithoutReply r ctrl rpc toWeb clientId msg sendFails).1.names id) :
    t.names id ∨ r.present id = true := by
  unfold sendMessageWithoutReply at h
  split at h
  · exact .inl h
  · exact names_toRuntime h

def Notifies (message : String) : Prop :=
  messageId (parseJsonMessageOrNull message) = none ∧
    MemoizedQueryTable.Remembered (parseJsonMessageOrNull message)

theorem customizedType_rewriteRuntime (data : Json) (clientId : Int) :
    getCustomizedType (rewriteRuntimeClientIdData data clientId) = getCustomizedType data := by
  unfold rewriteRuntimeClientIdData getCustomizedType prop
  simp only [Json.get?_modifyAt, String.reduceEq, if_false, if_true]
  cases data.get? "data" with
  | none => rfl
  | some outer =>
    simp only [map_some, bind_some, Json.get?_modifyAt, String.reduceEq, if_false, Json.modifyAt_nil,
      get?_setOwn outer _ (show "type" ≠ "sender" by decide)]

theorem remembered_rewritten : MemoizedQueryTable.Remembered
    (if value.truthy then rewriteRuntimeClientIdData value clientId else value) ↔
      MemoizedQueryTable.Remembered value := by
  unfold MemoizedQueryTable.Remembered
  split
  · rw [customizedType_rewriteRuntime]
  · rfl

theorem runtimeMessage_notification {msg : String} (h : messageId (parseJsonMessageOrNull msg) = none)
    (source : MessageSource) :
    t.handleRuntimeMessage r clientId msg source =
      t.handleNotification r clientId msg (parseJsonMessageOrNull msg) source := by
  have hu : getRoutableCustomizedPayload (parseJsonMessageOrNull msg) = none := map_eq_none_iff.mp h
  unfold handleRuntimeMessage
  simp only [hu]

theorem memo_deliverReply {rt : PendingRoute} :
    (t.deliverReply r rt value source).1.memo = t.memo := by
  unfold deliverReply settle
  split <;> rfl

theorem memo_runtimeMessage {msg : String} (h : ¬ Notifies msg) :
    (t.handleRuntimeMessage r clientId msg source).1.memo = t.memo := by
  by_cases hp : messageId (parseJsonMessageOrNull msg) = none
  · rw [runtimeMessage_notification hp]
    apply record_other
    rw [remembered_rewritten]
    exact fun hr => h ⟨hp, hr⟩
  · unfold handleRuntimeMessage
    dsimp only
    split
    next hu => exact absurd (map_eq_none_iff.mpr hu) hp
    · split
      · rfl
      · split
        · exact memo_deliverReply
        · rfl

theorem names_runtimeMessage {msg : String}
    (h : (t.handleRuntimeMessage r clientId msg source).1.names id) :
    t.names id ∨ (id = clientId ∧ Notifies msg) := by
  have hm := runtimeMessage_moves (r := r) (t := t) clientId msg source
  by_cases hn : Notifies msg
  · rcases h with hr | remembered
    · exact .inl (.inl (routesTo_of_moves hm hr))
    · rw [runtimeMessage_notification hn.1] at remembered
      rcases names_record remembered with old | same
      · exact .inl (.inr old)
      · exact .inr ⟨same, hn⟩
  · exact .inl (names_of_moves hm (memo_runtimeMessage hn) h)

theorem names_of_notifies {msg : String} (h : Notifies msg) :
    (t.handleRuntimeMessage r clientId msg source).1.names clientId := by
  rw [runtimeMessage_notification h.1]
  exact .inr (names_of_remembered (remembered_rewritten.mpr h.2))

end Traffic

namespace Host
variable {h h' : Host} {id : Int}

/-- The tables name nobody but those who are there. -/
structure LiveEndpoints (h : Host) : Prop where
  runtimes : ∀ id, h.traffic.names id → h.registry.present id = true
  requesters : ∀ globalMessageId route, h.traffic.routes.get globalMessageId = some route →
    h.registry.connected route.requester

/-- USB runtimes that leave without ownership are named nowhere, or a WiFi runtime has their id. -/
def Releases (h : Host) (ids : List Int) : Prop :=
  h.registry.legacyOwnershipAttached = false → ∀ id ∈ ids, h.registry.usbClients.has id = true →
    h.traffic.names id → h.registry.appClients.has id = true

/-- No act leaves a name behind: nobody leaves without ownership while a table names them, and no
notification comes from a USB runtime that is not registered any more. -/
def LeavesNobody (h : Host) : HostAct → Prop
  | .unregisterUsbClient id => h.Releases [id]
  | .unregisterDevice serial closed => h.registry.devices.has serial = true → h.Releases closed
  | .forceDisableAllClients _ _ closed => h.Releases closed
  | .usbClientMessage id message =>
    h.registry.legacyOwnershipAttached = true → Traffic.Notifies message →
      h.registry.present id = true
  | _ => True

/-- Nobody leaves, and only those who are there are named anew. -/
structure Steady (h h' : Host) : Prop where
  stays : ∀ id, h.registry.present id = true → h'.registry.present id = true
  named : ∀ id, h'.traffic.names id → h.traffic.names id ∨ h'.registry.present id = true

theorem Steady.trans {h'' : Host} (x : Steady h h') (hs : Steady h' h'') : Steady h h'' where
  stays := fun id here => hs.stays id (x.stays id here)
  named := fun id named => by
    rcases hs.named id named with hb | here
    · exact (x.named id hb).imp_right (hs.stays id)
    · exact .inr here

structure Quiet (h h' : Host) : Prop where
  traffic : h'.traffic = h.traffic
  usbClients : h'.registry.usbClients = h.registry.usbClients
  appClients : h'.registry.appClients = h.registry.appClients

theorem Quiet.steady (hq : Quiet h h') : Steady h h' where
  stays := fun id hh => by
    unfold present at *
    rwa [hq.usbClients, hq.appClients]
  named := fun id named => .inl (hq.traffic ▸ named)

theorem Quiet.refl (h : Host) : Quiet h h := ⟨rfl, rfl, rfl⟩

theorem Quiet.trans {h'' : Host} (x : Quiet h h') (hs : Quiet h' h'') : Quiet h h'' where
  traffic := hs.traffic.trans x.traffic
  usbClients := hs.usbClients.trans x.usbClients
  appClients := hs.appClients.trans x.appClients

theorem quiet_seq {x : Host × List Output} {next : Host → Host × List Output} (hb : Quiet h x.1)
    (ha : Quiet x.1 (next x.1).1) : Quiet h (seq x next).1 := hb.trans ha

theorem steady_onTraffic {f : Registry → Traffic → Traffic × List Output}
    (hn : ∀ id, (f h.registry h.traffic).1.names id →
      h.traffic.names id ∨ h.registry.present id = true) :
    Steady h (h.onTraffic f).1 := ⟨fun _ hh => hh, hn⟩

variable {ctrl : Nat} {handled : Host × List Output} {r : Registry} {srv : WebSocketServer}
variable {clientId : Int}

theorem quiet_fromControl (hq : Quiet h handled.1) : Quiet h (h.fromControl ctrl handled).1 := by
  unfold fromControl
  split
  · exact hq
  · exact .refl h

theorem quiet_registerDevice (dv : Device) : Quiet h (h.registerDevice dv).1 := by
  unfold registerDevice
  split
  · exact .refl h
  · dsimp only [seq]
    split <;> exact ⟨rfl, rfl, rfl⟩

theorem quiet_connectUsb (ctrl rpc : Nat) (dev : String) :
    Quiet h (h.connectUsbClients ctrl rpc dev).1 := by
  unfold connectUsbClients
  split
  · split <;> exact ⟨rfl, rfl, rfl⟩
  · exact .refl h

theorem quiet_physicalFound (ctrl rpc : Nat) (selected : UsbClient → Bool) :
    Quiet h (h.physicalFound ctrl rpc selected).1 := by
  unfold physicalFound
  split <;> exact ⟨rfl, rfl, rfl⟩

theorem quiet_physicalAnswered (ctrl rpc : Nat) : Quiet h (h.physicalAnswered ctrl rpc).1 := by
  unfold physicalAnswered
  split <;> exact ⟨rfl, rfl, rfl⟩

theorem quiet_physicalFailed (ctrl rpc : Nat) (msg : String) :
    Quiet h (h.physicalFailed ctrl rpc msg).1 := by
  unfold physicalFailed
  split <;> exact ⟨rfl, rfl, rfl⟩

/- The WebSocket server; before it is started there is no WiFi runtime. -/

theorem appClients_idle (hb : r.webSocketServerStarted = false)
    (ha : srv.Idle) : appClients { r with server := srv } = r.appClients := by
  rw [(clients_not_started hb).1]
  cases srv with
  | stopped => rfl
  | starting waiting created => cases created <;> rfl
  | started i ctl unreg =>
    obtain ⟨rfl, -⟩ := ha
    rfl

theorem quiet_idle (hb : h.registry.webSocketServerStarted = false)
    (ha : srv.Idle) : Quiet h (h.setRegistry ({ · with server := srv })).1 :=
  ⟨rfl, rfl, appClients_idle hb ha⟩

theorem quiet_addRequester (ctrl : Nat) : Quiet h (h.setRegistry (addRequester · ctrl)).1 := by
  unfold addRequester setRegistry
  constructor
  · rfl
  · dsimp only
    split <;> rfl
  · dsimp only
    split <;> rfl

theorem quiet_startWSServer (ctrl rpc : Nat) : Quiet h (h.startWSServer ctrl rpc).1 := by
  unfold startWSServer
  split
  · refine quiet_seq (quiet_addRequester ctrl) ?_
    split
    · exact ⟨rfl, rfl, rfl⟩
    next hs => exact quiet_idle (not_started_of_starting hs) trivial
    next hs => exact quiet_idle (not_started_of_stopped hs) trivial
  · exact .refl h

theorem quiet_controllerCreated : Quiet h h.webSocketControllerCreated.1 := by
  unfold webSocketControllerCreated
  split
  next hs => exact quiet_idle (not_started_of_starting hs) trivial
  · exact .refl h

theorem quiet_answerStarted (i : WebSocketServerInfo) (waiting : List (Nat × Nat)) (h : Host) :
    Quiet h (answerStarted i waiting h).1 := by
  induction waiting generalizing h with
  | nil => exact .refl h
  | cons c xs ih =>
    have told : Quiet h (h.snapshotTo [c.1]).1 := ⟨rfl, rfl, rfl⟩
    exact told.trans (ih _)

theorem quiet_serverStarted (i : WebSocketServerInfo) : Quiet h (h.webSocketServerStarted i).1 := by
  unfold webSocketServerStarted
  split
  next waiting hs =>
    have hi : WebSocketServer.Idle (.started i .empty []) := ⟨rfl, rfl⟩
    exact (quiet_idle (not_started_of_starting hs) hi).trans (quiet_answerStarted i waiting _)
  · exact .refl h

theorem quiet_startFailed : Quiet h h.webSocketStartFailed.1 := by
  unfold webSocketStartFailed
  split
  next hs => exact quiet_idle (not_started_of_starting hs) trivial
  · exact .refl h

theorem quiet_startRejected (msg : String) : Quiet h (h.webSocketStartRejected msg).1 := by
  unfold webSocketStartRejected
  split
  next hs =>
    have hi : WebSocketServer.Idle .stopped := trivial
    exact ⟨rfl, rfl, (quiet_idle (not_started_of_starting hs) hi).appClients⟩
  · exact .refl h

theorem quiet_wsOpened : Quiet h h.webSocketOpened.1 := by
  unfold webSocketOpened
  split
  next i ctl unreg hs =>
    refine ⟨rfl, (sameView_createId h.registry).usbClients, ?_⟩
    rw [appClients_started hs]
    exact appClients_started rfl
  · exact .refl h

/- Runtimes that come -/

theorem steady_registerUsb (port : UInt16) (q : ClientQuery) :
    Steady h (h.registerUsbClient port q).1 := by
  have hs := sameView_createId h.registry
  have ha : h.registry.createClientId.1.appClients = h.registry.appClients := appClients_sameView hs
  unfold registerUsbClient
  dsimp only
  split
  · exact Quiet.steady ⟨rfl, hs.usbClients, ha⟩
  · have had : Steady h ⟨{ h.registry.createClientId.1 with
        usbClients := h.registry.createClientId.1.usbClients.set h.registry.createClientId.2
          ⟨port, h.registry.createClientId.2, q⟩
        usbClientsById := h.registry.createClientId.1.usbClientsById.set rfl }, h.traffic⟩ := by
      refine ⟨?_, fun id hn => .inl hn⟩
      intro id hh
      unfold present at *
      change (has (set _ _ _) id || h.registry.createClientId.1.appClients.has id) = true
      rw [has_set, ha, hs.usbClients]
      revert hh
      cases h.registry.usbClients.has id <;> simp +contextual
    refine had.trans (Quiet.steady ?_)
    dsimp only [seq, setRegistry]
    split <;> exact ⟨rfl, rfl, rfl⟩

theorem steady_wsRegistered (i : WebSocketClientInfo) : Steady h (h.webSocketRegistered i).1 := by
  unfold webSocketRegistered
  split
  next srv ctl unreg hs =>
    split
    · refine ⟨?_, fun id hn => .inl hn⟩
      intro id hh
      unfold present at *
      rw [Bool.or_eq_true, appClients_started hs] at hh
      rw [Bool.or_eq_true]
      rcases hh with usb | wifi
      · exact .inl usb
      · exact .inr (appClients_add ctl i wifi)
    · exact (Quiet.refl h).steady
  · exact (Quiet.refl h).steady

/- Traffic -/

theorem steady_controlDisconnected (ctrl : Nat) : Steady h (h.controlDisconnected ctrl).1 := by
  have moves : Ledger.Moves h.traffic.toLedger (h.controlDisconnected ctrl).1.traffic.toLedger :=
    .single (.cleared fun rt => rt.requester = .control ctrl)
  refine ⟨fun id hh => hh, fun id hn => .inl ?_⟩
  exact names_of_moves moves rfl hn

theorem steady_customizedMessage {i : WebSocketClientInfo} {data : Json} {msg : String}
    {sendFails : Bool} (hk : i.isDriver = false → h.registry.appClients.has i.id = true) :
    Steady h (h.handleCustomizedMessage i data msg sendFails).1 := by
  unfold handleCustomizedMessage
  split
  · split
    · split
      · exact (Quiet.refl h).steady
      · exact steady_onTraffic fun id hn => names_toRuntime hn
    · exact (Quiet.refl h).steady
  next app =>
    dsimp only
    split
    · refine steady_onTraffic fun id hn => ?_
      rcases names_runtimeMessage hn with old | ⟨rfl, -⟩
      · exact .inl old
      · refine .inr ?_
        unfold present
        rw [hk (by simpa using app), Bool.or_true]
    · exact (Quiet.refl h).steady

theorem steady_wsMessage (id : Int) (msg : String) (sendFails : Bool) :
    Steady h (h.webSocketMessage id msg sendFails).1 := by
  unfold webSocketMessage
  split
  next i hk =>
    unfold handleMessage
    split
    · exact (Quiet.refl h).steady
    · dsimp only [seq, say]
      split
      · exact (Quiet.refl h).steady
      · split
        · exact (Quiet.refl h).steady
        · split
          · exact steady_customizedMessage (app_known hk)
          · exact (Quiet.refl h).steady
  · exact (Quiet.refl h).steady

theorem steady_memoRetry (clientId : Int) (requestType : String) (retried : Bool) :
    Steady h (h.onTraffic fun _ t => t.onRetryTimer clientId requestType retried).1 := by
  refine steady_onTraffic fun id hn => .inl ?_
  rcases hn with hr | remembered
  · exact .inl hr
  · exact .inr (names_onRetryTimer remembered)

theorem steady_routeTimeout (gid : Nat) :
    Steady h (h.onTraffic fun _ t => t.onRouteTimeout gid).1 := by
  have same : (h.traffic.onRouteTimeout gid).1.memo = h.traffic.memo := by
    unfold onRouteTimeout
    split <;> rfl
  refine steady_onTraffic fun id hn => .inl ?_
  exact names_of_moves (onRouteTimeout_moves gid) same hn

theorem steady_fromControl (hs : Steady h handled.1) : Steady h (h.fromControl ctrl handled).1 := by
  unfold fromControl
  split
  · exact hs
  · exact (Quiet.refl h).steady

/- Runtimes that leave -/

def Lively (h : Host) : Prop := ∀ id, h.traffic.names id → h.registry.present id = true

theorem Lively.steady (hl : h.Lively) (hs : Steady h h') : h'.Lively := by
  intro id hn
  rcases hs.named id hn with hb | here
  · exact hs.stays id (hl id hb)
  · exact here

theorem names_forgetRuntime (hn : (h.forgetRuntime clientId).1.traffic.names id) :
    h.traffic.names id ∧ id ≠ clientId := by
  rcases hn with ⟨gid, rt, hl, rfl⟩ | remembered
  · have kept := (get_clear (l := h.traffic.toLedger)).mp hl
    exact ⟨.inl ⟨gid, rt, kept.1, rfl⟩, by simpa using kept.2⟩
  · obtain ⟨hb, ha⟩ := names_clearClient remembered
    exact ⟨.inr hb, ha⟩

theorem Lively.forgetRuntime (hl : h.Lively)
    (ho : ∀ id, id ≠ clientId → h.registry.present id = true → r.present id = true) :
    Lively (Host.forgetRuntime ⟨r, h.traffic⟩ clientId).1 := by
  intro id hn
  obtain ⟨hb, ha⟩ := names_forgetRuntime hn
  exact ho id ha (hl id hb)

theorem lively_removeAppClient (hl : h.Lively) (clientId : Int) :
    (h.removeAppClient clientId).1.Lively := by
  unfold removeAppClient
  split
  · have gone :
        Lively (forgetRuntime ⟨updateController (·.removeApp clientId) h.registry, h.traffic⟩
          clientId).1 := by
      apply hl.forgetRuntime
      intro id ha hh
      unfold present at *
      rw [Bool.or_eq_true] at hh ⊢
      rcases hh with usb | wifi
      · left
        unfold updateController
        split <;> exact usb
      · exact .inr (appClients_removeApp ha wifi)
    exact gone
  · exact hl

theorem steady_removeWebClient (clientId : Int) : Steady h (h.removeWebClient clientId).1 := by
  unfold removeWebClient
  split
  · constructor
    · intro id hh
      change (updateController (·.removeWeb clientId) h.registry).present id = true
      unfold present at *
      rw [Bool.or_eq_true] at hh ⊢
      rcases hh with usb | wifi
      · left
        unfold updateController
        split <;> exact usb
      · exact .inr (appClients_removeWeb wifi)
    · rintro id (⟨gid, rt, hli, hl⟩ | remembered)
      · have kept := (get_clear (l := h.traffic.toLedger)).mp hli
        exact .inl (.inl ⟨gid, rt, kept.1, hl⟩)
      · exact .inl (.inr remembered)
  · exact (Quiet.refl h).steady

theorem lively_wsClosed (hl : h.Lively) (clientId : Int) : (h.webSocketClosed clientId).1.Lively :=
  (lively_removeAppClient hl clientId).steady (steady_removeWebClient clientId)

theorem attached_unregisterUsb (clientId : Int) :
    (h.unregisterUsbClient clientId).1.registry.ownership = h.registry.ownership := by
  unfold unregisterUsbClient handleClientDisconnected
  split
  · dsimp only [seq]
    split <;> rfl
  · rfl

theorem lively_unregisterUsb (hl : h.Lively) (hat : h.registry.legacyOwnershipAttached = true)
    (clientId : Int) : (h.unregisterUsbClient clientId).1.Lively := by
  unfold unregisterUsbClient
  split
  · have hf : Lively (forgetRuntime ⟨{ h.registry with
        usbClients := h.registry.usbClients.delete clientId
        usbClientsById := h.registry.usbClientsById.delete clientId }, h.traffic⟩ clientId).1 := by
      apply hl.forgetRuntime
      intro id ha hh
      unfold present at *
      rw [Bool.or_eq_true] at hh ⊢
      rcases hh with usb | wifi
      · left
        rw [has_delete, usb]
        simpa using ha.symm
      · exact .inr wifi
    have hp : handleClientDisconnected ⟨{ h.registry with
        usbClients := h.registry.usbClients.delete clientId
        usbClientsById := h.registry.usbClientsById.delete clientId }, h.traffic⟩ clientId = _ :=
          if_pos hat
    dsimp only [seq, setRegistry]
    rw [hp]
    exact hf
  · exact hl

variable (ids : List Int)

theorem lively_unregisterUsbs (hl : h.Lively)
    (ha : h.registry.legacyOwnershipAttached = true) : (unregisterUsbClients ids h).1.Lively := by
  induction ids generalizing h with
  | nil => exact hl
  | cons clientId xs ih =>
    have hs : (h.unregisterUsbClient clientId).1.registry.legacyOwnershipAttached = true := by
      unfold legacyOwnershipAttached at *
      rwa [attached_unregisterUsb]
    exact ih (lively_unregisterUsb hl ha clientId) hs

structure Departed (ids : List Int) (h h' : Host) : Prop where
  traffic : h'.traffic = h.traffic
  appClients : h'.registry.appClients = h.registry.appClients
  ownership : h'.registry.ownership = h.registry.ownership
  usbClients : ∀ id, h'.registry.usbClients.has id = true ↔
    h.registry.usbClients.has id = true ∧ id ∉ ids

theorem departed_unregisterUsb (hu : h.registry.legacyOwnershipAttached = false) (clientId : Int) :
    Departed [clientId] h (h.unregisterUsbClient clientId).1 := by
  unfold unregisterUsbClient
  split
  · have hsi : handleClientDisconnected ⟨{ h.registry with
        usbClients := h.registry.usbClients.delete clientId
        usbClientsById := h.registry.usbClientsById.delete clientId }, h.traffic⟩ clientId = _ :=
      if_neg (ne_true_of_eq_false hu)
    dsimp only [seq, setRegistry]
    rw [hsi]
    refine ⟨rfl, rfl, rfl, fun id => ?_⟩
    change (h.registry.usbClients.delete clientId).has id = true ↔ _
    rw [has_delete, Bool.and_eq_true, Bool.not_eq_true', decide_eq_false_iff_not, List.mem_singleton]
    exact and_congr Iff.rfl (not_congr eq_comm)
  next ha =>
    refine ⟨rfl, rfl, rfl, fun id => ⟨fun hh => ⟨hh, ?_⟩, And.left⟩⟩
    intro hs
    exact ha (List.mem_singleton.mp hs ▸ hh)

theorem departed_unregisterUsbs (hu : h.registry.legacyOwnershipAttached = false) :
    Departed ids h (unregisterUsbClients ids h).1 := by
  induction ids generalizing h with
  | nil => exact ⟨rfl, rfl, rfl, fun id => by simp [unregisterUsbClients, still]⟩
  | cons clientId rest ih =>
    have first := departed_unregisterUsb hu clientId
    have still : (h.unregisterUsbClient clientId).1.registry.legacyOwnershipAttached = false := by
      unfold legacyOwnershipAttached at *
      rwa [first.ownership]
    have others := ih still
    refine ⟨others.traffic.trans first.traffic, others.appClients.trans first.appClients,
      others.ownership.trans first.ownership, fun id => ?_⟩
    change (unregisterUsbClients rest (h.unregisterUsbClient clientId).1).1.registry.usbClients.has
      id = true ↔ _
    rw [others.usbClients, first.usbClients, List.mem_singleton, List.mem_cons, not_or, and_assoc]

theorem Departed.lively_iff {ids : List Int} (hd : Departed ids h h') (hl : h.Lively) :
    h'.Lively ↔ ∀ id ∈ ids, h.registry.usbClients.has id = true → h.traffic.names id →
      h.registry.appClients.has id = true := by
  unfold Lively present at *
  rw [hd.traffic, hd.appClients]
  constructor
  · intro ha id hg usb hn
    have hh := ha id hn
    rw [Bool.or_eq_true, hd.usbClients] at hh
    rcases hh with ⟨-, hs⟩ | wifi
    · exact absurd hg hs
    · exact wifi
  · intro hr id hn
    have hh := hl id hn
    rw [Bool.or_eq_true] at hh ⊢
    rcases hh with usb | wifi
    · by_cases hg : id ∈ ids
      · exact .inr (hr id hg usb hn)
      · exact .inl ((hd.usbClients id).mpr ⟨usb, hg⟩)
    · exact .inr wifi

theorem Quiet.lively_iff (hq : Quiet h h') : h'.Lively ↔ h.Lively := by
  unfold Lively present
  rw [hq.traffic, hq.usbClients, hq.appClients]

theorem lively_unregisterUsbs_iff (hl : h.Lively) :
    (unregisterUsbClients ids h).1.Lively ↔ h.Releases ids := by
  cases ha : h.registry.legacyOwnershipAttached with
  | true =>
    refine ⟨fun _ hu => ?_, fun _ => lively_unregisterUsbs ids hl ha⟩
    rw [ha] at hu
    cases hu
  | false =>
    rw [(departed_unregisterUsbs ids ha).lively_iff hl]
    exact ⟨fun hr _ => hr, fun hr => hr ha⟩

theorem lively_unregisterDevice_iff (sn : String) (closed : List Int) (hl : h.Lively) :
    (h.unregisterDevice sn closed).1.Lively ↔
      (h.registry.devices.has sn = true → h.Releases closed) := by
  unfold unregisterDevice
  split
  next hk =>
    have hd : Lively ⟨{ h.registry with
        devices := h.registry.devices.delete sn
        devicesBySerial := h.registry.devicesBySerial.delete sn }, h.traffic⟩ := hl
    have hc := lively_unregisterUsbs_iff closed hd
    have shown : ∀ done : Host,
        Quiet done (if done.registry.legacyOwnershipAttached then done.broadcastSnapshot
          else done.still).1 := by
      intro done
      split <;> exact ⟨rfl, rfl, rfl⟩
    exact (shown _).lively_iff.trans (hc.trans ⟨fun hr _ => hr, fun hr => hr hk⟩)
  next hu => exact ⟨fun _ hk => absurd hk hu, fun _ => hl⟩

theorem lively_ownershipLost (hli : h.Lively) : h.ownershipLost.1.Lively := by
  unfold ownershipLost
  split
  · rintro id (⟨gid, rt, hl, -⟩ | remembered)
    · have kept := (get_clear (l := h.traffic.toLedger)).mp hl
      cases kept.2
    · exact absurd remembered not_names_clear
  · exact hli

theorem lively_usbMessage_iff (clientId : Int) (msg : String) (hl : h.Lively) :
    (h.handleUsbClientMessage clientId msg).1.Lively ↔
      (h.registry.legacyOwnershipAttached = true → Traffic.Notifies msg →
        h.registry.present clientId = true) := by
  unfold handleUsbClientMessage
  split
  next ha =>
    constructor
    · intro haf _ hn
      exact haf clientId (names_of_notifies hn)
    · intro hk id hna
      rcases names_runtimeMessage hna with hb | ⟨rfl, hn⟩
      · exact hl id hb
      · exact hk ha hn
  next hu => exact ⟨fun _ ha => absurd ha hu, fun _ => hl⟩

theorem lively_step_iff (hl : h.Lively) (act : HostAct) :
    (h.step act).Lively ↔ h.LeavesNobody act := by
  have hs : Steady h (h.step act) → h.LeavesNobody act = True →
      ((h.step act).Lively ↔ h.LeavesNobody act) := by
    intro hst hf
    rw [hf, iff_true]
    exact hl.steady hst
  cases act with
  | registerDevice dv => exact hs (quiet_registerDevice dv).steady rfl
  | unregisterDevice sn closed => exact lively_unregisterDevice_iff sn closed hl
  | registerUsbClient port dv i => exact hs (steady_registerUsb port _) rfl
  | unregisterUsbClient id => exact lively_unregisterUsbs_iff [id] hl
  | usbClientMessage id msg => exact lively_usbMessage_iff id msg hl
  | ownershipAttached ann | controlConnected ws | watchersStarted ctrl rpc =>
    exact hs (Quiet.steady ⟨rfl, rfl, rfl⟩) rfl
  | ownershipLost => exact iff_of_true (lively_ownershipLost hl) trivial
  | controlDisconnected ctrl => exact hs (steady_controlDisconnected ctrl) rfl
  | connectDevices ctrl rpc sn =>
    have quiet : Quiet h (h.connectDevices ctrl rpc sn).1 := ⟨rfl, rfl, rfl⟩
    exact hs (quiet_fromControl quiet).steady rfl
  | connectUsbClients ctrl rpc dev =>
    exact hs (quiet_fromControl (quiet_connectUsb ctrl rpc dev)).steady rfl
  | physicalFound ctrl rpc selected => exact hs (quiet_physicalFound ctrl rpc selected).steady rfl
  | physicalAnswered ctrl rpc => exact hs (quiet_physicalAnswered ctrl rpc).steady rfl
  | physicalFailed ctrl rpc msg => exact hs (quiet_physicalFailed ctrl rpc msg).steady rfl
  | forceDisableAllClients ctrl rpc closed =>
    have hp : Quiet (unregisterUsbClients closed h).1 (h.forceDisableAllClients ctrl rpc closed).1 :=
      ⟨rfl, rfl, rfl⟩
    exact hp.lively_iff.trans (lively_unregisterUsbs_iff closed hl)
  | startWSServer ctrl rpc =>
    exact hs (quiet_fromControl (quiet_startWSServer ctrl rpc)).steady rfl
  | webSocketControllerCreated => exact hs quiet_controllerCreated.steady rfl
  | webSocketServerStarted i => exact hs (quiet_serverStarted i).steady rfl
  | webSocketStartFailed => exact hs quiet_startFailed.steady rfl
  | webSocketStartRejected msg => exact hs (quiet_startRejected msg).steady rfl
  | webSocketOpened => exact hs quiet_wsOpened.steady rfl
  | webSocketRegistered id data => exact hs (steady_wsRegistered _) rfl
  | webSocketClosed id => exact iff_of_true (lively_wsClosed hl id) trivial
  | webSocketMessage id msg sendFails => exact hs (steady_wsMessage id msg sendFails) rfl
  | sendMessageWithReply ctrl rpc clientId msg sendFails =>
    refine hs (steady_fromControl (steady_onTraffic ?_)) rfl
    exact fun _ hn => names_withReply hn
  | sendMessageWithoutReply ctrl rpc toWeb clientId msg sendFails =>
    refine hs (steady_fromControl (steady_onTraffic ?_)) rfl
    exact fun _ hn => names_withoutReply hn
  | routeTimeout gid => exact hs (steady_routeTimeout gid) rfl
  | memoRetry clientId requestType retried =>
    exact hs (steady_memoRetry clientId requestType retried) rfl
  | tick el => exact hs ⟨fun _ hh => hh, fun _ hn => .inl hn⟩ rfl

theorem liveEndpoints_iff (hi : h.Isolated) : h.LiveEndpoints ↔ h.Lively := by
  refine ⟨LiveEndpoints.runtimes, fun hli => ⟨hli, fun gid rt hl => ?_⟩⟩
  have hr := hi.owned gid rt hl
  cases hre : rt.requester with
  | control id =>
    rw [hre] at hr
    exact hr
  | webSocket id =>
    rw [hre] at hr
    exact hr.2

/-- The tables name only runtimes and requesters that are there, over every run in which no step
leaves a name behind, and in no other. -/
theorem endpoints_live_iff (enableWebSocket : Bool) (acts : List HostAct) :
    Throughout step LiveEndpoints (initial enableWebSocket) acts ↔
      Along step LeavesNobody (initial enableWebSocket) acts := by
  have start : (initial enableWebSocket).Lively := by
    rintro id (⟨globalMessageId, route, hl, -⟩ | ⟨type, hn | pending⟩)
    · cases hl
    · cases hn
    · cases pending
  have hi := isolated_initial enableWebSocket
  have he : ∀ (h : Host) (act : HostAct), h.Isolated → h.LiveEndpoints →
      ((h.step act).LiveEndpoints ↔ h.LeavesNobody act) := by
    intro h act hi hl
    rw [liveEndpoints_iff (isolated_step h act hi)]
    exact lively_step_iff hl.runtimes act
  exact throughout_iff_along (fun h act hi _ => isolated_step h act hi) he hi
    ((liveEndpoints_iff hi).mpr start)

/-- Ownership was lost while a runtime was connecting. It registers, a control queries it, and it
leaves. -/
def leaving : List HostAct :=
  [.ownershipAttached true, .controlConnected false, .ownershipLost, .registerUsbClient 8901
    ⟨"Android", some (.str "phone"), "serial", [], "127.0.0.1"⟩ (.obj [("App", .str "app")]),
    .sendMessageWithReply 1 1 1 (customizedRequest "ListSession") false, .unregisterUsbClient 1]

/-- The route of the query stays, and its timer goes on sending to the runtime that has left. -/
theorem query_outlives_runtime :
    let h := leaving.foldl step (initial false)
    h.registry.present 1 = false ∧ (h.traffic.routes.get 1).map PendingRoute.clientId = some 1 ∧
      (h.outputs (.memoRetry 1 "ListSession" true)).length = 1 ∧ ¬ h.LiveEndpoints := by
  have absent : (leaving.foldl step (initial false)).registry.present 1 = false := by decide +kernel
  have hr : ((leaving.foldl step (initial false)).traffic.routes.get 1).map PendingRoute.clientId =
      some 1 := by
    decide +kernel
  have sent : ((leaving.foldl step (initial false)).outputs
      (.memoRetry 1 "ListSession" true)).length = 1 := by
    decide +kernel
  refine ⟨absent, hr, sent, fun hli => ?_⟩
  obtain ⟨route, hf, hl⟩ := map_eq_some_iff.mp hr
  have hp := hli.runtimes 1 (.inl ⟨1, route, hf, hl⟩)
  cases hp

end Host

end DebugRouter.Daemon
