import DebugRouter.Daemon.Endpoints

/-!
Notifications from the cache. What the cache holds for a runtime was broadcast when it arrived: to
the controls as the runtime's own text, to the Drivers as the text of the rewritten value. The cache
holds the latter.
-/
namespace DebugRouter.Daemon

open Library List OrderedMap MemoizedQueryTable Traffic

def rewrittenValue (clientId : Int) (message : String) : Json :=
  let parsedValue := parseJsonMessageOrNull message
  if parsedValue.truthy then rewriteRuntimeClientIdData parsedValue clientId else parsedValue

def broadcastText (clientId : Int) (message : String) : String :=
  if (parseJsonMessageOrNull message).truthy then
    JsonText.stringify (rewrittenValue clientId message)
  else message

structure Records (clientId : Int) (notificationType message : String)
    (notification : MemoizedNotification) : Prop where
  plain : messageId (parseJsonMessageOrNull message) = none
  type : getCustomizedType (parseJsonMessageOrNull message) = some notificationType
  text : notification.message = broadcastText clientId message
  value : notification.parsedValue = rewrittenValue clientId message

namespace Traffic
variable {r : Registry} {t : Traffic}
variable (clientId : Int)

theorem customizedType_rewrittenValue (message : String) :
    getCustomizedType (rewrittenValue clientId message) =
      getCustomizedType (parseJsonMessageOrNull message) := by
  unfold rewrittenValue
  dsimp only
  split
  · exact customizedType_rewriteRuntime _ _
  · rfl

variable {message notificationType : String}

theorem notifications_runtimeMessage {speaker clientId : Int}
    {src : MessageSource} {notification : MemoizedNotification}
    (h : (t.handleRuntimeMessage r speaker message src).1.memo.notifications.get?
      (clientId, notificationType) =
      some notification) :
    t.memo.notifications.get? (clientId, notificationType) = some notification ∨
      speaker = clientId ∧ Records clientId notificationType message notification := by
  by_cases hn : Notifies message
  · rw [runtimeMessage_notification hn.1] at h
    replace h : (t.memo.recordNotification t.clock speaker (broadcastText speaker message)
      (rewrittenValue speaker message)).notifications.get? (clientId, notificationType) =
        some notification := h
    unfold recordNotification at h
    rw [customizedType_rewrittenValue] at h
    split at h
    · exact .inl h
    rename_i type ht
    split at h
    · exact .inl h
    · simp only [clearPending, get?_set] at h
      split at h
      next hs =>
        cases hs
        cases h
        exact .inr ⟨rfl, hn.1, ht, rfl, rfl⟩
      · exact .inl h
  · rw [memo_runtimeMessage hn] at h
    exact .inl h

theorem recorded_runtimeMessage {ty : String} (hp : messageId (parseJsonMessageOrNull message) = none)
    (ht : getCustomizedType (parseJsonMessageOrNull message) = some notificationType)
    (hm : requestTypeOf notificationType = some ty) (src : MessageSource) :
    (t.handleRuntimeMessage r clientId message src).1.memo.notifications.get?
        (clientId, notificationType) =
      some ⟨broadcastText clientId message, rewrittenValue clientId message, t.clock⟩ := by
  rw [runtimeMessage_notification hp]
  rw [← customizedType_rewrittenValue clientId] at ht
  change (t.memo.recordNotification t.clock clientId (broadcastText clientId message)
    (rewrittenValue clientId message)).notifications.get? (clientId, notificationType) = _
  simp only [recordNotification, ht, hm, clearPending]
  exact (get?_set ..).trans (if_pos rfl)

theorem notifications_toRuntime (message : OutboundMessage) (tgt : Target)
    (sendFails : Bool) :
    (t.sendMessageToRuntime r clientId message tgt sendFails).traffic.memo.notifications =
      t.memo.notifications := by
  have hh := toRuntime_handled r t clientId message tgt sendFails
  generalize t.sendMessageToRuntime r clientId message tgt sendFails = sent at hh ⊢
  cases hh with
  | refused | skipped => rfl
  | cached => exact notifications_toTargetDriver tgt _ _ _
  | forwarded hd named memo ty hk =>
    rw [Host.notifications_forward]
    exact hk

theorem notifications_withReply (ctrl rpc : Nat) (clientId : Int) (message : Json)
    (sendFails : Bool) :
    (t.sendMessageWithReply r ctrl rpc clientId message sendFails).1.memo.notifications =
      t.memo.notifications := by
  unfold sendMessageWithReply
  split
  · exact notifications_toRuntime clientId _ _ sendFails
  · dsimp only
    split <;> exact notifications_toRuntime clientId _ _ sendFails

theorem notifications_withoutReply (ctrl rpc : Nat) (toWeb : Bool) (clientId : Int)
    (message : Json) (sendFails : Bool) :
    (t.sendMessageWithoutReply r ctrl rpc toWeb clientId message sendFails).1.memo.notifications =
      t.memo.notifications := by
  unfold sendMessageWithoutReply
  split
  · rfl
  · exact notifications_toRuntime clientId _ _ sendFails

end Traffic

namespace Host
variable {h h' : Host}

def Forgetful (h h' : Host) : Prop :=
  ∀ key notification, h'.traffic.memo.notifications.get? key = some notification →
    h.traffic.memo.notifications.get? key = some notification

theorem forgetful_of_eq (hs : h'.traffic.memo.notifications = h.traffic.memo.notifications) :
    Forgetful h h' :=
  fun _ _ hf => hs ▸ hf

theorem Quiet.forgetful (hq : Quiet h h') : Forgetful h h' :=
  forgetful_of_eq (congrArg (fun t : Traffic => t.memo.notifications) hq.traffic)

theorem Forgetful.trans {h'' : Host} (x : Forgetful h h') (hs : Forgetful h' h'') : Forgetful h h'' :=
  fun key notification hf => x key notification (hs key notification hf)

theorem forgetful_fromControl {ctrl : Nat} {handled : Host × List Output}
    (hf : Forgetful h handled.1) :
    Forgetful h (h.fromControl ctrl handled).1 := by
  unfold fromControl
  split
  · exact hf
  · exact forgetful_of_eq rfl

theorem forgetful_forgetRuntime (clientId : Int) : Forgetful h (h.forgetRuntime clientId).1 :=
  fun _ _ hf => (get?_filter_eq_some.mp hf).1

theorem forgetful_unregisterUsb (clientId : Int) :
    Forgetful h (h.unregisterUsbClient clientId).1 := by
  unfold unregisterUsbClient handleClientDisconnected
  split
  · dsimp only [seq]
    split
    · exact forgetful_forgetRuntime clientId
    · exact forgetful_of_eq rfl
  · exact forgetful_of_eq rfl

theorem forgetful_unregisterUsbs (ids : List Int) : Forgetful h (unregisterUsbClients ids h).1 := by
  induction ids generalizing h with
  | nil => exact forgetful_of_eq rfl
  | cons clientId xs ih => exact (forgetful_unregisterUsb clientId).trans ih

theorem forgetful_unregisterDevice (sn : String) (closed : List Int) :
    Forgetful h (h.unregisterDevice sn closed).1 := by
  unfold unregisterDevice
  split
  · have shown : ∀ done : Host,
        Quiet done (if done.registry.legacyOwnershipAttached then done.broadcastSnapshot
          else done.still).1 := by
      intro done
      split <;> exact ⟨rfl, rfl, rfl⟩
    have hc : Forgetful ⟨{ h.registry with
        devices := h.registry.devices.delete sn
        devicesBySerial := h.registry.devicesBySerial.delete sn }, h.traffic⟩ _ :=
      forgetful_unregisterUsbs closed
    exact hc.trans (shown _).forgetful
  · exact forgetful_of_eq rfl

theorem forgetful_ownershipLost : Forgetful h h.ownershipLost.1 := by
  unfold ownershipLost
  split
  · intro key notification hf
    cases hf
  · exact forgetful_of_eq rfl

theorem forgetful_wsClosed (clientId : Int) : Forgetful h (h.webSocketClosed clientId).1 := by
  have app : Forgetful h (h.removeAppClient clientId).1 := by
    unfold removeAppClient
    split
    · exact forgetful_forgetRuntime clientId
    · exact forgetful_of_eq rfl
  have web : Forgetful (h.removeAppClient clientId).1
      ((h.removeAppClient clientId).1.removeWebClient clientId).1 := by
    unfold removeWebClient
    split <;> exact forgetful_of_eq rfl
  exact app.trans web

theorem forgetful_memoRetry (clientId : Int) (ty : String) (retried : Bool) :
    Forgetful h (h.onTraffic fun _ t => t.onRetryTimer clientId ty retried).1 := by
  refine forgetful_of_eq ?_
  change (h.traffic.memo.onRetryTimer h.traffic.clock clientId ty retried).1.notifications = _
  unfold MemoizedQueryTable.onRetryTimer
  split
  · split <;> rfl
  · rfl

/-- A notification of a runtime is broadcast during an act: as it is to the controls, rewritten to
the Drivers. -/
structure Broadcasts (h : Host) (act : HostAct) (clientId : Int) (source : MessageSource)
    (message : String) : Prop where
  heard : Heard act h.registry clientId message source
  controls : ∀ control, h.registry.controls.has control = true →
    .event control (.clientMessage source clientId message) ∈ h.outputs act
  drivers : h.registry.enableWebSocket = true → ∀ driver, h.registry.webClients.has driver = true →
    .web driver (broadcastText clientId message) ∈ h.outputs act

variable {clientId : Int} {notificationType : String} {notification : MemoizedNotification}

theorem broadcasts_of_mem {act : HostAct} {src : MessageSource} {message : String}
    (heard : Heard act h.registry clientId message src)
    (hp : messageId (parseJsonMessageOrNull message) = none)
    (ht : ∀ o ∈ (h.traffic.handleRuntimeMessage h.registry clientId message src).2,
      o ∈ h.outputs act) :
    h.Broadcasts act clientId src message where
  heard := heard
  controls := by
    intro control hc
    apply ht
    rw [runtimeMessage_notification hp]
    exact mem_append_right _ (mem_map_of_mem (mem_keys_iff_has.mpr hc))
  drivers := by
    intro he driver hc
    apply ht
    rw [runtimeMessage_notification hp]
    refine mem_append_left _ ?_
    rw [Registry.sendMessageToWeb, if_pos he]
    exact mem_map_of_mem (mem_keys_iff_has.mpr hc)

abbrev Recalled (h : Host) (act : HostAct) (clientId : Int) (notificationType : String)
    (notification : MemoizedNotification) : Prop :=
  h.traffic.memo.notifications.get? (clientId, notificationType) = some notification ∨
    ∃ source message, h.Broadcasts act clientId source message ∧
      Records clientId notificationType message notification

theorem respond_usbMessage (ha : h.registry.legacyOwnershipAttached = true) (id : Int)
    (message : String) :
    h.respond (.usbClientMessage id message) =
      (⟨h.registry, (h.traffic.handleRuntimeMessage h.registry id message .usbRuntime).1⟩,
        (h.traffic.handleRuntimeMessage h.registry id message .usbRuntime).2) := if_pos ha

variable (clientId) in
theorem broadcasts_usbMessage (ha : h.registry.legacyOwnershipAttached = true) {message : String}
    (hp : messageId (parseJsonMessageOrNull message) = none) :
    h.Broadcasts (.usbClientMessage clientId message) clientId .usbRuntime message := by
  refine broadcasts_of_mem (.usb rfl ha) hp ?_
  intro o ht
  rw [outputs, respond_usbMessage ha]
  exact ht

variable (clientId) in
theorem recorded_usbMessage (ha : h.registry.legacyOwnershipAttached = true) {message ty : String}
    (hp : messageId (parseJsonMessageOrNull message) = none)
    (ht : getCustomizedType (parseJsonMessageOrNull message) = some notificationType)
    (hm : requestTypeOf notificationType = some ty) :
    (h.step (.usbClientMessage clientId message)).traffic.memo.notifications.get?
      (clientId, notificationType) =
      some ⟨broadcastText clientId message, rewrittenValue clientId message, h.traffic.clock⟩ := by
  rw [step, respond_usbMessage ha]
  exact recorded_runtimeMessage clientId hp ht hm .usbRuntime

theorem recalled_usbMessage {speaker : Int} {message : String}
    (hf : (h.handleUsbClientMessage speaker message).1.traffic.memo.notifications.get?
      (clientId, notificationType) = some notification) :
    h.Recalled (.usbClientMessage speaker message) clientId notificationType notification := by
  unfold handleUsbClientMessage at hf
  split at hf
  next ha =>
    rcases notifications_runtimeMessage hf with old | ⟨rfl, hr⟩
    · exact .inl old
    · exact .inr ⟨.usbRuntime, message, broadcasts_usbMessage speaker ha hr.plain, hr⟩
  · exact .inl hf

variable {id : Int} {data : Json} {sendFails : Bool}

theorem recalled_customizedMessage {act : HostAct} {i : WebSocketClientInfo}
    {message : String}
    (hk : (h.registry.webClients.get? id).or (h.registry.appClients.get? id) = some i)
    (hp : JsonText.parse message = some data) (hc : data.get? "event" = some (.str "Customized"))
    (ht : ∀ o ∈ (h.handleCustomizedMessage i data message sendFails).2, o ∈ h.outputs act)
    (hf : (h.handleCustomizedMessage i data message sendFails).1.traffic.memo.notifications.get?
      (clientId, notificationType) = some notification) :
    h.Recalled act clientId notificationType notification := by
  unfold handleCustomizedMessage at ht hf
  split at hf
  · split at hf
    · split at hf
      · exact .inl hf
      · rw [onTraffic, handleWebSocketDriverMessage] at hf
        rw [notifications_toRuntime] at hf
        exact .inl hf
    · exact .inl hf
  next app =>
    rw [if_neg app] at ht
    dsimp only at ht hf
    split at hf
    next hs =>
      rw [if_pos hs] at ht
      rcases notifications_runtimeMessage hf with old | ⟨rfl, hr⟩
      · exact .inl old
      · have ev : (parseJsonMessageOrNull message).get? "event" = some (.str "Customized") := by
          rw [parseJsonMessageOrNull, hp]
          exact hc
        have hh : Heard act h.registry i.id message .websocketRuntime :=
          .wifi (app_known hk (eq_false_of_ne_true app)) ev
        exact .inr ⟨_, message, broadcasts_of_mem hh hr.plain ht, hr⟩
    · exact .inl hf

theorem recalled_wsMessage {message : String}
    (hf : (h.webSocketMessage id message sendFails).1.traffic.memo.notifications.get?
      (clientId, notificationType) = some notification) :
    h.Recalled (.webSocketMessage id message sendFails) clientId notificationType notification := by
  cases hk : (h.registry.webClients.get? id).or (h.registry.appClients.get? id) with
  | none =>
    rw [webSocketMessage, hk] at hf
    exact .inl hf
  | some i =>
    cases hp : JsonText.parse message with
    | none =>
      simp only [webSocketMessage, hk, handleMessage, hp] at hf
      exact .inl hf
    | some v =>
      by_cases hc : v.get? "event" = some (.str "Customized")
      · have hh : h.webSocketMessage id message sendFails =
            seq (h.say (announce i v message)) (handleCustomizedMessage · i v message sendFails) := by
          simp [webSocketMessage, hk, handleMessage, hp, hc, seq, say]
        refine recalled_customizedMessage hk hp hc ?_ (hh ▸ hf)
        intro o ht
        change o ∈ (h.webSocketMessage id message sendFails).2
        rw [hh]
        exact mem_append_right _ ht
      · have hu : (h.webSocketMessage id message sendFails).1.traffic = h.traffic := by
          simp only [webSocketMessage, hk, handleMessage, hp, seq, say, hc, if_false]
          split
          · rfl
          · split <;> rfl
        rw [hu] at hf
        exact .inl hf

theorem recalled_step {act : HostAct}
    (hfou : (h.step act).traffic.memo.notifications.get? (clientId, notificationType) =
      some notification) :
    h.Recalled act clientId notificationType notification := by
  have hf : Forgetful h (h.step act) → h.Recalled act clientId notificationType notification :=
    fun hfo => .inl (hfo _ _ hfou)
  cases act with
  | usbClientMessage id message => exact recalled_usbMessage hfou
  | webSocketMessage id message sendFails => exact recalled_wsMessage hfou
  | registerDevice dv => exact hf (quiet_registerDevice dv).forgetful
  | unregisterDevice sn closed => exact hf (forgetful_unregisterDevice sn closed)
  | registerUsbClient port dv i =>
    refine hf (forgetful_of_eq ?_)
    change (h.registerUsbClient port _).1.traffic.memo.notifications = _
    unfold registerUsbClient
    dsimp only [seq]
    split
    · rfl
    · split <;> rfl
  | unregisterUsbClient id => exact hf (forgetful_unregisterUsb id)
  | ownershipAttached ann | controlConnected ws | controlDisconnected ctrl
  | watchersStarted ctrl rpc | tick el => exact hf (forgetful_of_eq rfl)
  | ownershipLost => exact hf forgetful_ownershipLost
  | connectDevices ctrl rpc sn => exact hf (forgetful_fromControl (forgetful_of_eq rfl))
  | connectUsbClients ctrl rpc dev =>
    exact hf (quiet_fromControl (quiet_connectUsb ctrl rpc dev)).forgetful
  | physicalFound ctrl rpc selected => exact hf (quiet_physicalFound ctrl rpc selected).forgetful
  | physicalAnswered ctrl rpc => exact hf (quiet_physicalAnswered ctrl rpc).forgetful
  | physicalFailed ctrl rpc message => exact hf (quiet_physicalFailed ctrl rpc message).forgetful
  | forceDisableAllClients ctrl rpc closed => exact hf (forgetful_unregisterUsbs closed)
  | startWSServer ctrl rpc =>
    exact hf (quiet_fromControl (quiet_startWSServer ctrl rpc)).forgetful
  | webSocketControllerCreated => exact hf quiet_controllerCreated.forgetful
  | webSocketServerStarted i => exact hf (quiet_serverStarted i).forgetful
  | webSocketStartFailed => exact hf quiet_startFailed.forgetful
  | webSocketStartRejected message => exact hf (quiet_startRejected message).forgetful
  | webSocketOpened => exact hf quiet_wsOpened.forgetful
  | webSocketRegistered id data =>
    refine hf (forgetful_of_eq ?_)
    change (h.webSocketRegistered _).1.traffic.memo.notifications = _
    unfold webSocketRegistered
    split
    · split <;> rfl
    · rfl
  | webSocketClosed id => exact hf (forgetful_wsClosed id)
  | sendMessageWithReply ctrl rpc clientId message sendFails =>
    refine hf (forgetful_fromControl (forgetful_of_eq ?_))
    exact notifications_withReply ctrl rpc clientId message sendFails
  | sendMessageWithoutReply ctrl rpc toWeb clientId message sendFails =>
    refine hf (forgetful_fromControl (forgetful_of_eq ?_))
    exact notifications_withoutReply ctrl rpc toWeb clientId message sendFails
  | routeTimeout gid =>
    refine hf (forgetful_of_eq ?_)
    change (h.traffic.onRouteTimeout gid).1.memo.notifications = _
    unfold onRouteTimeout
    split <;> rfl
  | memoRetry clientId ty retried => exact hf (forgetful_memoRetry clientId ty retried)

theorem cached_origin (ws : Bool) (acts : List HostAct)
    (hf : (acts.foldl step (initial ws)).traffic.memo.notifications.get?
      (clientId, notificationType) =
      some notification) :
    ∃ pre act back src live, acts = pre ++ act :: back ∧
      (pre.foldl step (initial ws)).Broadcasts act clientId src live ∧
      Records clientId notificationType live notification := by
  let Holds :=
    fun h : Host => h.traffic.memo.notifications.get? (clientId, notificationType) =
      some notification
  have hm : ¬ Holds (initial ws) := nofun
  obtain ⟨pre, act, back, split, src, live, ht, hr⟩ :=
    exists_origin (P := Holds) (fun _ _ hf => recalled_step hf) hm hf
  exact ⟨pre, act, back, src, live, split, ht, hr⟩

/- Queries that are answered from the cache -/

theorem requestType_of_memoized {requestType : String}
    (h : notificationTypeOf requestType = some notificationType) :
    requestType = "ListSession" := by
  obtain ⟨definition, hf, -⟩ := Option.map_eq_some_iff.mp h
  have picked := find?_some hf
  have same : definition.1 = requestType := of_decide_eq_true picked
  have only := mem_singleton.mp (mem_of_find?_eq_some hf)
  rw [only] at same
  exact same.symm

theorem toRuntime_cached {r : Registry} {t : Traffic} {request : OutboundMessage}
    {ty : String} (hk : (r.appClients.has clientId || r.usbClients.has clientId) = true)
    (hd : request.decode = some data) (ha : getCustomizedType data = some ty)
    (hm : notificationTypeOf ty = some notificationType)
    (hfo : t.memo.notifications.get? (clientId, notificationType) = some notification)
    (hv : t.clock - notification.receivedAt ≤ t.memo.validityPeriodMs) (target : Target)
    (sendFails : Bool) :
    t.sendMessageToRuntime r clientId request target sendFails =
      ⟨(t.sendMessageToTargetDriver r target clientId notification.message
        notification.parsedValue).1,
        (t.sendMessageToTargetDriver r target clientId notification.message
          notification.parsedValue).2, none⟩ := by
  have hc : isLegacyHandshake data = false := by
    simp [isLegacyHandshake, (messageType_of_customized ha).2, requestType_of_memoized hm]
  have hf : t.memo.getFreshNotification t.clock clientId notificationType = some notification := by
    rw [getFreshNotification, hfo, Option.filter_some, if_pos (by simpa using hv)]
  have hit : ∀ id : Int, t.memo.query t.clock clientId (rewriteClientId data id) =
      (t.memo, .cached notification.message notification.parsedValue) := by
    intro id
    simp [query, customizedType_rewriteId, ha, hm, hf]
  unfold sendMessageToRuntime
  dsimp only
  rw [if_pos hk, hd]
  dsimp only
  rw [hc, hit]
  rfl

theorem withoutReply_cached {message : Json} {ty : String} {control : Nat}
    (hc : h.registry.controls.has control = true)
    (hk : (h.registry.appClients.has clientId || h.registry.usbClients.has clientId) = true)
    (hd : (OutboundMessage.text (outboundText message)).decode = some data)
    (ha : getCustomizedType data = some ty)
    (hm : notificationTypeOf ty = some notificationType)
    (hf : h.traffic.memo.notifications.get? (clientId, notificationType) = some notification)
    (hv : h.traffic.clock - notification.receivedAt ≤ h.traffic.memo.validityPeriodMs) (rpc : Nat)
    (sendFails : Bool) :
    h.outputs (.sendMessageWithoutReply control rpc false clientId message sendFails) =
      [.event control (.clientMessage
        (if h.registry.appClients.has clientId then .websocketRuntime else .usbRuntime)
        clientId notification.message), .response control rpc (.ok .done)] := by
  have hh : h.outputs (.sendMessageWithoutReply control rpc false clientId message sendFails) =
      (h.traffic.sendMessageWithoutReply h.registry control rpc false clientId message sendFails).2 :=
    congrArg Prod.snd (if_pos hc)
  rw [hh, sendMessageWithoutReply, if_neg Bool.false_ne_true, toRuntime_cached hk hd ha hm hf hv]
  simp [sendMessageToTargetDriver, Registry.sendToControl, hc, answer]

/-- A query that is answered from the cache replays a broadcast of the run. A Driver gets the string
of the broadcast; a control gets that string too, under the transport the runtime is on now, where
the broadcast gave it the runtime's own text. -/
theorem cached_query_replays_broadcast (enableWebSocket : Bool) (acts : List HostAct)
    {request : OutboundMessage} {data : Json} {requestType : String} :
    let h := acts.foldl step (initial enableWebSocket)
    let source' :=
      if h.registry.appClients.has clientId then MessageSource.websocketRuntime else .usbRuntime
    (h.registry.appClients.has clientId || h.registry.usbClients.has clientId) = true →
    request.decode = some data → getCustomizedType data = some requestType →
    notificationTypeOf requestType = some notificationType →
    h.traffic.memo.notifications.get? (clientId, notificationType) = some notification →
    h.traffic.clock - notification.receivedAt ≤ h.traffic.memo.validityPeriodMs →
    ∃ front act back source live, acts = front ++ act :: back ∧
      (front.foldl step (initial enableWebSocket)).Broadcasts act clientId source live ∧
      messageId (parseJsonMessageOrNull live) = none ∧
      getCustomizedType (parseJsonMessageOrNull live) = some notificationType ∧
      ∀ sendFails,
        (∀ driver promise,
          (h.traffic.sendMessageToRuntime h.registry clientId request ⟨.webSocket driver, promise⟩
            sendFails).outputs =
            h.registry.sendMessageToWebClient driver (broadcastText clientId live)) ∧
        ∀ control, h.registry.controls.has control = true →
          (h.traffic.sendMessageToRuntime h.registry clientId request ⟨.control control, none⟩
            sendFails).outputs =
            [.event control (.clientMessage source' clientId (broadcastText clientId live))] ∧
          ((h.traffic.sendMessageToRuntime h.registry clientId request ⟨.control control, none⟩
            sendFails).outputs =
              [.event control (.clientMessage source clientId live)] ↔
            source' = source ∧ broadcastText clientId live = live) := by
  intro h source' hk hd ha hm hf hv
  obtain ⟨front, act, back, source, live, split, ht, hr⟩ := cached_origin enableWebSocket acts hf
  refine ⟨front, act, back, source, live, split, ht, hr.plain, hr.type, fun sendFails => ⟨?_, ?_⟩⟩
  · intro driver promise
    rw [toRuntime_cached hk hd ha hm hf hv, hr.text]
    rfl
  · intro control hc
    have sent : (h.traffic.sendMessageToRuntime h.registry clientId request ⟨.control control, none⟩
        sendFails).outputs =
        [.event control (.clientMessage source' clientId (broadcastText clientId live))] := by
      rw [toRuntime_cached hk hd ha hm hf hv, hr.text]
      exact if_pos hc
    refine ⟨sent, ?_⟩
    rw [sent]
    simp

def sessionList (sender : String) : String :=
  "\x7b\"event\":\"Customized\",\"data\":\x7b\"type\":\"SessionList\",\"data\":[],\"sender\":" ++
    sender ++ "\x7d\x7d"

theorem plain_sessionList : messageId (parseJsonMessageOrNull (sessionList "0")) = none := by
  decide +kernel

theorem typed_sessionList :
    getCustomizedType (parseJsonMessageOrNull (sessionList "0")) = some "SessionList" := by
  decide +kernel

theorem requested_sessionList : requestTypeOf "SessionList" = some "ListSession" := by decide

theorem broadcastText_sessionList : broadcastText 1 (sessionList "0") = sessionList "1" := by
  decide +kernel

theorem typed_listSession :
    getCustomizedType (customizedRequest "ListSession") = some "ListSession" := by decide +kernel

theorem memoized_listSession : notificationTypeOf "ListSession" = some "SessionList" := by decide

theorem decode_listSession :
    (OutboundMessage.text (outboundText (customizedRequest "ListSession"))).decode =
    some (customizedRequest "ListSession") := by decide +kernel

/-- One control, one runtime, and the session list of a runtime that calls itself 0. -/
def listing : List HostAct := connecting ++ [.usbClientMessage 1 (sessionList "0")]

theorem foldl_listing : listing.foldl step (initial false) =
    (connecting.foldl step (initial false)).step (.usbClientMessage 1 (sessionList "0")) := by
  rw [listing, foldl_append, foldl_cons, foldl_nil]

theorem listing_connected :
    (listing.foldl step (initial false)).registry.controls.has 1 = true := by decide +kernel

theorem listing_known : ((listing.foldl step (initial false)).registry.appClients.has 1 ||
    (listing.foldl step (initial false)).registry.usbClients.has 1) = true := by decide +kernel

theorem listing_attached :
    (connecting.foldl step (initial false)).registry.legacyOwnershipAttached = true := by
  decide +kernel

theorem listing_recorded :
    (listing.foldl step (initial false)).traffic.memo.notifications.get? (1, "SessionList") =
    some ⟨broadcastText 1 (sessionList "0"), rewrittenValue 1 (sessionList "0"),
      (connecting.foldl step (initial false)).traffic.clock⟩ := by
  rw [foldl_listing]
  exact recorded_usbMessage 1 listing_attached plain_sessionList typed_sessionList
    requested_sessionList

theorem listing_valid (rcv : Nat) : (listing.foldl step (initial false)).traffic.clock - rcv ≤
    (listing.foldl step (initial false)).traffic.memo.validityPeriodMs := by
  have now : (listing.foldl step (initial false)).traffic.clock = 0 := by decide +kernel
  rw [now, Nat.zero_sub]
  exact Nat.zero_le _

theorem listing_replayed : ∃ front act back source live, listing = front ++ act :: back ∧
      (front.foldl step (initial false)).Broadcasts act 1 source live ∧
      ((listing.foldl step (initial false)).traffic.sendMessageToRuntime
        (listing.foldl step (initial false)).registry 1
        (.text (outboundText (customizedRequest "ListSession"))) ⟨.control 1, none⟩ false).outputs =
          [.event 1 (.clientMessage .usbRuntime 1 (broadcastText 1 live))] := by
  obtain ⟨front, act, back, source, live, split, ht, -, -, hs⟩ :=
    cached_query_replays_broadcast false listing listing_known decode_listSession typed_listSession
      memoized_listSession listing_recorded (listing_valid _)
  have onUsb : (listing.foldl step (initial false)).registry.appClients.has 1 = false := by
    decide +kernel
  have event := ((hs false).2 1 listing_connected).1
  rw [onUsb, if_neg Bool.false_ne_true] at event
  exact ⟨front, act, back, source, live, split, ht, event⟩

/-- The controls are told the list as it is; it is replayed with the sender 1. -/
theorem replay_renames_sender : .event 1 (.clientMessage .usbRuntime 1 (sessionList "0")) ∈
        (connecting.foldl step (initial false)).outputs (.usbClientMessage 1 (sessionList "0")) ∧
      (listing.foldl step (initial false)).outputs
          (.sendMessageWithoutReply 1 1 false 1 (customizedRequest "ListSession") false) =
        [.event 1 (.clientMessage .usbRuntime 1 (sessionList "1")), .response 1 1 (.ok .done)] ∧
      sessionList "1" ≠ sessionList "0" := by
  have told := broadcasts_usbMessage 1 listing_attached plain_sessionList
  have onUsb : (listing.foldl step (initial false)).registry.appClients.has 1 = false := by
    decide +kernel
  have played :=
    withoutReply_cached listing_connected listing_known decode_listSession typed_listSession
    memoized_listSession listing_recorded (listing_valid _) 1 false
  refine ⟨told.controls 1 (by decide +kernel), ?_, by decide +kernel⟩
  rw [played, onUsb, broadcastText_sessionList, if_neg Bool.false_ne_true]

end Host

end DebugRouter.Daemon
