import DebugRouter.Daemon.Moves

/-!
An act of the Host as a chain of strokes. A stroke changes one thing or says one kind of thing;
what every stroke upholds, every act upholds.
-/
namespace DebugRouter.Daemon

open Library List Option OrderedMap MemoizedQueryTable Registry Traffic

/-- An output that shows no device and no client, and passes on nothing a runtime said. -/
def Output.Plain : Output → Prop
  | .event _ (.legacyOwnershipChanged _) => True
  | .event _ _ => False
  | .response _ _ (.ok .done) => True
  | .response _ _ (.ok _) => False
  | .settled _ _ (.ok _) => False
  | .clientList _ _ => False
  | _ => True

structure Registry.SameView (r r' : Registry) : Prop where
  ownership : r'.ownership = r.ownership
  devices : r'.devices = r.devices
  usbClients : r'.usbClients = r.usbClients
  server : r'.server = r.server
  calls : r'.calls = r.calls

def PendingCall.Fresh : PendingCall → Prop
  | .connectDevices _ found => found = none
  | .connectUsbClients _ found => found = none

/-- A call is as it was, has just begun, or has found what there is. -/
def Registry.Called (r : Registry) (key : Nat × Nat) (call : PendingCall) : Prop :=
  r.calls.get? key = some call ∨ call.Fresh ∨
    ∃ old selected, r.calls.get? key = some old ∧ call = Host.found r selected old

def WebSocketServer.Idle : WebSocketServer → Prop
  | .started _ controller unregistered => controller = .empty ∧ unregistered = []
  | _ => True

theorem Traffic.notifications_toTargetDriver {r : Registry} {t : Traffic} (tgt : Target)
    (cid : Int) (msg : String) (v : Json) :
    (t.sendMessageToTargetDriver r tgt cid msg v).1.memo.notifications = t.memo.notifications := by
  unfold sendMessageToTargetDriver
  split <;> rfl

namespace Host

inductive Heard (act : HostAct) (r : Registry) (clientId : Int) (message : String) :
    MessageSource → Prop
  | usb (own : act = .usbClientMessage clientId message)
      (attached : r.legacyOwnershipAttached = true) :
      Heard act r clientId message .usbRuntime
  | wifi (known : r.appClients.has clientId = true)
      (customized : (parseJsonMessageOrNull message).get? "event" = some (.str "Customized")) :
      Heard act r clientId message .websocketRuntime

inductive Stroke (act : HostAct) : Host → Host → List Output → Prop
  | said {h : Host} {outputs : List Output} (plain : ∀ o ∈ outputs, o.Plain) : Stroke act h h outputs
  | snapshot {r : Registry} {t : Traffic} (controlIds : List Nat) :
      Stroke act ⟨r, t⟩ ⟨(r.sendSnapshot controlIds).1, t⟩ (r.sendSnapshot controlIds).2
  | lists {h : Host} {outputs : List Output}
      (each : ∀ o ∈ outputs, ∃ id, o = .clientList id (h.registry.clientList id)) :
        Stroke act h h outputs
  | announced {h : Host} {outputs : List Output}
      (each : ∀ o ∈ outputs, ∃ controlId source id message,
        o = .event controlId (.clientMessage source id message) ∧ source ≠ .usbRuntime) :
      Stroke act h h outputs
  | devicesFound {r : Registry} {t : Traffic} {key : Nat × Nat} {serial : Option String}
      {devices : List Device} {outputs : List Output}
      (called : r.calls.get? key = some (.connectDevices serial (some devices)))
      (each : ∀ o ∈ outputs, o = .response key.1 key.2 (.ok (.devices devices))) :
      Stroke act ⟨r, t⟩ ⟨{ r with calls := r.calls.delete key }, t⟩ outputs
  | clientsFound {r : Registry} {t : Traffic} {key : Nat × Nat} {deviceId : String}
      {clients : List UsbClient} {outputs : List Output}
      (called : r.calls.get? key = some (.connectUsbClients deviceId (some clients)))
      (each : ∀ o ∈ outputs, o = .response key.1 key.2 (.ok (.clients clients))) :
      Stroke act ⟨r, t⟩ ⟨{ r with calls := r.calls.delete key }, t⟩ outputs
  | noClients {h : Host} {controlId rpcId : Nat} {outputs : List Output}
      (each : ∀ o ∈ outputs, o = .response controlId rpcId (.ok (.clients []))) :
        Stroke act h h outputs
  | serverInfo {h : Host} {info : WebSocketServerInfo} {outputs : List Output}
      (each : ∀ o ∈ outputs, ∃ controlId rpcId,
        o = .response controlId rpcId (.ok (.serverInfo info))) :
      Stroke act h h outputs
  | view {r r' : Registry} {t : Traffic} (same : r.SameView r') : Stroke act ⟨r, t⟩ ⟨r', t⟩ []
  | calls {r : Registry} {t : Traffic} (calls' : OrderedMap (Nat × Nat) PendingCall)
      (called : calls'.All r.Called) : Stroke act ⟨r, t⟩ ⟨{ r with calls := calls' }, t⟩ []
  | deviceAdded {r : Registry} {t : Traffic} {device : Device} (own : act = .registerDevice device) :
      Stroke act ⟨r, t⟩ ⟨{ r with
            devices := r.devices.set device.serial device
            devicesBySerial := r.devicesBySerial.set rfl }, t⟩ []
  | deviceRemoved {r : Registry} {t : Traffic} (serial : String) :
      Stroke act ⟨r, t⟩ ⟨{ r with
            devices := r.devices.delete serial
            devicesBySerial := r.devicesBySerial.delete serial }, t⟩ []
  | usbAdded {r : Registry} {t : Traffic} {port : UInt16} {device : Device} {info : Json}
      (own : act = .registerUsbClient port device info) :
      Stroke act ⟨r, t⟩ ⟨{ r.createClientId.1 with
            usbClients := r.createClientId.1.usbClients.set r.createClientId.2
              ⟨port, r.createClientId.2, Peer.registerQuery device info⟩
            usbClientsById := r.createClientId.1.usbClientsById.set rfl }, t⟩ []
  | usbRemoved {r : Registry} {t : Traffic} (id : Int) :
      Stroke act ⟨r, t⟩
        ⟨{ r with
            usbClients := r.usbClients.delete id
            usbClientsById := r.usbClientsById.delete id }, t⟩ []
  | attached {r : Registry} {t : Traffic} {announced : Bool}
      (own : act = .ownershipAttached announced) :
      Stroke act ⟨r, t⟩ ⟨{ r with ownership := .attached }, t⟩ []
  | lost {r : Registry} {t t' : Traffic} {outputs : List Output} (own : act = .ownershipLost)
      (cleared : t'.memo = t.memo.clear) (plain : ∀ o ∈ outputs, o.Plain) :
      Stroke act ⟨r, t⟩ ⟨{ r with
        ownership := .unattached, usbClients := .empty, usbClientsById := all_empty }, t'⟩ outputs
  | idle {r : Registry} {t : Traffic} {server : WebSocketServer}
      (before : r.webSocketServerStarted = false) (after : server.Idle) :
      Stroke act ⟨r, t⟩ ⟨{ r with server := server }, t⟩ []
  | opened {r : Registry} {t : Traffic} {info : WebSocketServerInfo}
      {controller : WebSocketController}
      {unregistered : List Int} (server : r.server = .started info controller unregistered) :
      Stroke act ⟨r, t⟩ ⟨{ r.createClientId.1 with
            server := .started info controller (unregistered ++ [r.createClientId.2]) }, t⟩ []
  | registered {r : Registry} {t : Traffic} {info : WebSocketServerInfo}
      {controller : WebSocketController} {unregistered : List Int} {id : Int} {data : Json}
      (own : act = .webSocketRegistered id data)
      (server : r.server = .started info controller unregistered) (waiting : id ∈ unregistered) :
      Stroke act ⟨r, t⟩ ⟨{ r with
            server := .started info (controller.add (Peer.registerInfo id data))
              (unregistered.erase id) }, t⟩ []
  | appRemoved {r : Registry} {t t' : Traffic} {outputs : List Output} (id : Int)
      (cleared : t'.memo = t.memo.clearClient id) (plain : ∀ o ∈ outputs, o.Plain) :
      Stroke act ⟨r, t⟩ ⟨updateController (·.removeApp id) r, t'⟩ outputs
  | webRemoved {r : Registry} {t : Traffic} (id : Int) :
      Stroke act ⟨r, t⟩ ⟨updateController (·.removeWeb id) r, t⟩ []
  | traffic {r : Registry} {t t' : Traffic} {outputs : List Output}
      (kept : t'.memo.notifications = t.memo.notifications) (plain : ∀ o ∈ outputs, o.Plain) :
      Stroke act ⟨r, t⟩ ⟨r, t'⟩ outputs
  | forgotten {r : Registry} {t t' : Traffic} {outputs : List Output} (clientId : Int)
      (cleared : t'.memo = t.memo.clearClient clientId) (plain : ∀ o ∈ outputs, o.Plain) :
      Stroke act ⟨r, t⟩ ⟨r, t'⟩ outputs
  | cached {r : Registry} {t : Traffic} {clientId : Int} {notificationType : String}
      {notification : MemoizedNotification} (target : Target)
      (found : t.memo.notifications.get? (clientId, notificationType) = some notification) :
      Stroke act ⟨r, t⟩ ⟨r, (t.sendMessageToTargetDriver r target clientId notification.message
          notification.parsedValue).1⟩
        (t.sendMessageToTargetDriver r target clientId notification.message
          notification.parsedValue).2
  | heard {r : Registry} {t : Traffic} {clientId : Int} {message : String} {source : MessageSource}
      (heard : Heard act r clientId message source) :
      Stroke act ⟨r, t⟩ ⟨r, (t.handleRuntimeMessage r clientId message source).1⟩
        (t.handleRuntimeMessage r clientId message source).2

inductive Strokes (act : HostAct) : Host → Host × List Output → Prop
  | still (h : Host) : Strokes act h (h, [])
  | cons {h mid : Host} {outputs : List Output} {done : Host × List Output}
      (stroke : Stroke act h mid outputs) (rest : Strokes act mid done) :
      Strokes act h (done.1, outputs ++ done.2)

variable {act : HostAct} {h : Host}
variable {done x : Host × List Output} {r : Registry} {ctrl rpc : Nat}
  {result : Except RpcError RpcResult} {key : Nat × Nat} {call : PendingCall} {id : Int}
  {i : WebSocketClientInfo}

theorem Strokes.upholds {Inv : Host → Prop} {Ok : Output → Prop}
    (hea : ∀ h h' outputs, Inv h → Stroke act h h' outputs → Inv h' ∧ ∀ o ∈ outputs, Ok o)
    (hstr : Strokes act h done) (hb : Inv h) :
    Inv done.1 ∧ ∀ o ∈ done.2, Ok o := by
  induction hstr with
  | still h => exact ⟨hb, nofun⟩
  | cons hst hr ih =>
    obtain ⟨ha, he⟩ := hea _ _ _ hb hst
    obtain ⟨hl, hla⟩ := ih ha
    refine ⟨hl, ?_⟩
    intro o hs
    rcases mem_append.mp hs with x | second
    · exact he o x
    · exact hla o second

theorem Strokes.single {mid : Host} {outputs : List Output} (hs : Stroke act h mid outputs) :
    Strokes act h (mid, outputs) := by
  have chain := Strokes.cons hs (Strokes.still mid)
  rw [append_nil] at chain
  exact chain

theorem Strokes.append (hb : Strokes act h x)
    (ha : Strokes act x.1 done) : Strokes act h (done.1, x.2 ++ done.2) := by
  induction hb with
  | still h => exact ha
  | cons hs hr ih =>
    rw [append_assoc]
    exact .cons hs (ih ha)

theorem Strokes.seq {next : Host → Host × List Output} (hb : Strokes act h x)
    (ha : Strokes act x.1 (next x.1)) :
    Strokes act h (Host.seq x next) := hb.append ha

/- The pieces handlers are made of -/

theorem plain_respond (h : (Output.response ctrl rpc result).Plain) :
    ∀ o ∈ r.respond ctrl rpc result, o.Plain := by
  intro o hs
  unfold Registry.respond at hs
  split at hs
  · cases List.mem_singleton.mp hs
    exact h
  · cases hs

theorem eq_respond : ∀ o ∈ r.respond ctrl rpc result, o = .response ctrl rpc result := by
  intro o hs
  unfold Registry.respond at hs
  split at hs
  · exact List.mem_singleton.mp hs
  · cases hs

variable (t : Traffic)

theorem plain_rejectRoutes (removed : List PendingRoute) (err : RpcError) :
    ∀ o ∈ (t.rejectRoutes removed err).2, o.Plain := by
  intro o hs
  obtain ⟨await, -, rfl⟩ := mem_map.mp hs
  trivial

theorem plain_broadcast {attached : Bool} :
    ∀ o ∈ r.broadcast (.legacyOwnershipChanged attached), o.Plain := by
  intro o hs
  obtain ⟨id, -, rfl⟩ := mem_map.mp hs
  trivial

theorem plain_toWeb (r : Registry) (msg : String) : ∀ o ∈ r.sendMessageToWeb msg, o.Plain := by
  intro o hs
  unfold sendMessageToWeb at hs
  split at hs
  · obtain ⟨id, -, rfl⟩ := mem_map.mp hs
    trivial
  · cases hs

theorem plain_toWebClient (r : Registry) (id : Int) (msg : String) :
    ∀ o ∈ r.sendMessageToWebClient id msg, o.Plain := by
  intro o hs
  unfold sendMessageToWebClient at hs
  split at hs
  · cases mem_singleton.mp hs
    trivial
  · cases hs

theorem lists_clientList (r : Registry) :
    ∀ o ∈ r.sendClientList, ∃ id, o = .clientList id (r.clientList id) := by
  intro o hs
  obtain ⟨i, -, rfl⟩ := mem_map.mp hs
  exact ⟨i.id, rfl⟩

theorem strokes_view {f : Registry → Registry} (hs : h.registry.SameView (f h.registry)) :
    Strokes act h (h.setRegistry f) := .single (.view hs)

theorem strokes_snapshotTo (controlIds : List Nat) : Strokes act h (h.snapshotTo controlIds) :=
  .single (.snapshot controlIds)

theorem strokes_clientList : Strokes act h (h.say sendClientList) :=
  .single (.lists (lists_clientList h.registry))

theorem strokes_publish : Strokes act h (h.onRegistry publishClientSnapshot) :=
  .cons (.lists (lists_clientList h.registry)) (strokes_snapshotTo h.registry.controls.keys)

theorem strokes_done (ctrl rpc : Nat) : Strokes act h (h.say (·.respond ctrl rpc (.ok .done))) :=
  .single (.said (plain_respond trivial))

theorem strokes_error (ctrl rpc : Nat) (err : RpcError) :
    Strokes act h (h.say (·.respond ctrl rpc (.error err))) :=
  .single (.said (plain_respond trivial))

theorem strokes_serverInfo (ctrl rpc : Nat) (i : WebSocketServerInfo) :
    Strokes act h (h.say (·.respond ctrl rpc (.ok (.serverInfo i)))) :=
  .single (.serverInfo fun o hs => ⟨ctrl, rpc, eq_respond o hs⟩)

theorem strokes_forgetRuntime (cid : Int) : Strokes act h (h.forgetRuntime cid) :=
  .single (.forgotten cid rfl (plain_rejectRoutes _ _ _))

theorem strokes_ifAttached {next : Host × List Output} (hs : Strokes act h next) :
    Strokes act h (if h.registry.legacyOwnershipAttached then next else h.still) := by
  split
  · exact hs
  · exact .still h

/- The physical layer -/

theorem strokes_registerDevice (dv : Device) :
    Strokes (.registerDevice dv) h (h.registerDevice dv) := by
  unfold registerDevice
  split
  · exact .still h
  · exact Strokes.seq (.single (.deviceAdded rfl)) (strokes_ifAttached (strokes_snapshotTo _))

theorem strokes_unregisterUsb (id : Int) : Strokes act h (h.unregisterUsbClient id) := by
  unfold unregisterUsbClient handleClientDisconnected
  split
  · refine Strokes.seq (.single (.usbRemoved id)) (strokes_ifAttached ?_)
    exact Strokes.seq (strokes_forgetRuntime id) strokes_publish
  · exact .still h

theorem strokes_unregisterUsbs (ids : List Int) (h : Host) :
    Strokes act h (unregisterUsbClients ids h) := by
  induction ids generalizing h with
  | nil => exact .still h
  | cons id xs ih => exact Strokes.seq (strokes_unregisterUsb id) (ih _)

theorem strokes_unregisterDevice (sn : String) (closed : List Int) :
    Strokes act h (h.unregisterDevice sn closed) := by
  unfold unregisterDevice
  split
  · refine Strokes.seq (Strokes.seq (.single (.deviceRemoved sn)) ?_)
      (strokes_ifAttached (strokes_snapshotTo _))
    exact strokes_unregisterUsbs closed _
  · exact .still h

theorem sameView_createId (r : Registry) : r.SameView r.createClientId.1 := by
  unfold createClientId
  split <;> exact ⟨rfl, rfl, rfl, rfl, rfl⟩

theorem strokes_registerUsb (port : UInt16) (dv : Device) (i : Json) :
    Strokes (.registerUsbClient port dv i) h
      (h.registerUsbClient port (Peer.registerQuery dv i)) := by
  unfold registerUsbClient
  dsimp only
  split
  · exact .single (.view (sameView_createId h.registry))
  · exact Strokes.seq (.single (.usbAdded rfl)) (strokes_ifAttached strokes_publish)

theorem strokes_usbMessage (id : Int) (msg : String) :
    Strokes (.usbClientMessage id msg) h (h.handleUsbClientMessage id msg) := by
  unfold handleUsbClientMessage
  split
  next ha => exact .single (.heard (.usb rfl ha))
  · exact .still h

theorem strokes_ownershipAttached (ann : Bool) :
    Strokes (.ownershipAttached ann) h (h.ownershipAttached ann) := by
  refine Strokes.seq (.single (.attached rfl)) (.single (.said ?_))
  split
  · exact plain_broadcast
  · exact forall_mem_nil _

def losing (h : Host) : Host × List Output :=
  seq (seq (h.setRegistry fun r => { r with ownership := .unattached }) (onTraffic · fun _ t =>
      { t with memo := t.memo.clear, routes := t.routes.clear.1 }.rejectRoutes t.routes.clear.2
        (rpcFailed "Multiplexer legacy owner was preempted")))
    (setRegistry · fun r => { r with usbClients := .empty, usbClientsById := byId_empty })

theorem strokes_losing : Strokes .ownershipLost h h.losing := by
  refine .single (.lost rfl rfl ?_)
  intro o hs
  rcases mem_append.mp hs with hr | none
  · exact plain_rejectRoutes h.traffic _ _ o hr
  · cases none

theorem strokes_ownershipLost : Strokes .ownershipLost h h.ownershipLost := by
  unfold ownershipLost
  split
  · have told : Strokes .ownershipLost h (seq (seq (seq h.losing broadcastSnapshot)
        (say · sendClientList)) (say · (·.broadcast (.legacyOwnershipChanged false)))) :=
      Strokes.seq (Strokes.seq (Strokes.seq strokes_losing (strokes_snapshotTo _))
        strokes_clientList) (.single (.said plain_broadcast))
    exact told
  · exact .still h

/- Controls -/

theorem strokes_controlConnected (ws : Bool) : Strokes act h (h.controlConnected ws) := by
  unfold controlConnected
  refine Strokes.seq (Strokes.seq (Strokes.seq (strokes_view ?_) (strokes_snapshotTo _))
    (.single (.said ?_))) (strokes_view ?_)
  · exact ⟨rfl, rfl, rfl, rfl, rfl⟩
  · intro o hs
    dsimp only at hs
    split at hs
    · cases hs
    · unfold sendToControl at hs
      split at hs
      · cases mem_singleton.mp hs
        trivial
      · cases hs
  · exact ⟨rfl, rfl, rfl, rfl, rfl⟩

theorem strokes_controlDisconnected (id : Nat) : Strokes act h (h.controlDisconnected id) := by
  unfold controlDisconnected
  refine Strokes.seq (strokes_view ⟨rfl, rfl, rfl, rfl, rfl⟩) (.single (.traffic rfl ?_))
  exact plain_rejectRoutes _ _ _

theorem called_set (h : r.Called key call) : (r.calls.set key call).All r.Called := by
  intro k c hf
  rw [get?_set] at hf
  split at hf
  next hs =>
    cases hf
    exact hs ▸ h
  · exact .inl hf

theorem strokes_call (hc : h.registry.Called key call) :
    Strokes act h (h.setRegistry fun r => { r with calls := r.calls.set key call }) :=
  .single (.calls _ (called_set hc))

theorem strokes_endCall (ctrl rpc : Nat) : Strokes act h (h.endCall ctrl rpc) :=
  .single (.calls _ fun _ _ hf => .inl (get?_of_delete hf))

theorem strokes_connectUsb (ctrl rpc : Nat) (dev : String) :
    Strokes act h (h.connectUsbClients ctrl rpc dev) := by
  unfold connectUsbClients
  split
  · split
    · exact strokes_call (.inr (.inl rfl))
    · exact strokes_error _ _ _
  · exact .single (.noClients eq_respond)

theorem strokes_physicalFound (ctrl rpc : Nat) (selected : UsbClient → Bool) :
    Strokes act h (h.physicalFound ctrl rpc selected) := by
  unfold physicalFound
  split
  next call hp => exact strokes_call (.inr (.inr ⟨call, selected, hp, rfl⟩))
  · exact .still h

theorem strokes_physicalAnswered (ctrl rpc : Nat) :
    Strokes act h (h.physicalAnswered ctrl rpc) := by
  unfold physicalAnswered
  split
  next hc =>
    refine .single (.devicesFound hc ?_)
    intro o hs
    rcases mem_append.mp hs with none | answer
    · cases none
    · exact eq_respond o answer
  next clients hc =>
    have told : Strokes act (h.onRegistry publishClientSnapshot).1
        (⟨{ (h.onRegistry publishClientSnapshot).1.registry with
            calls := h.registry.calls.delete (ctrl, rpc) }, h.traffic⟩,
          (h.onRegistry publishClientSnapshot).1.registry.respond ctrl rpc
            (.ok (.clients clients))) :=
      .single (.clientsFound hc eq_respond)
    exact strokes_publish.append told
  · exact .still h

theorem strokes_watchersStarted (ctrl rpc : Nat) : Strokes act h (h.watchersStarted ctrl rpc) :=
  Strokes.seq strokes_publish (strokes_done _ _)

theorem strokes_fromControl {handled : Host × List Output}
    (hs : Strokes act h handled) : Strokes act h (h.fromControl ctrl handled) := by
  unfold fromControl
  split
  · exact hs
  · exact .still h

/- WebSockets -/

theorem sameView_addRequester (r : Registry) (ctrl : Nat) : r.SameView (addRequester r ctrl) := by
  unfold addRequester
  split <;> exact ⟨rfl, rfl, rfl, rfl, rfl⟩

theorem not_started_of_starting {waiting : List (Nat × Nat)} {created : Bool}
    (h : r.server = .starting waiting created) : r.webSocketServerStarted = false := by
  simp [Registry.webSocketServerStarted, h]

theorem not_started_of_stopped (h : r.server = .stopped) : r.webSocketServerStarted = false := by
  simp [Registry.webSocketServerStarted, h]

theorem strokes_startWSServer (ctrl rpc : Nat) : Strokes act h (h.startWSServer ctrl rpc) := by
  unfold startWSServer
  split
  · refine Strokes.seq (strokes_view (sameView_addRequester h.registry ctrl)) ?_
    split
    · exact Strokes.seq (strokes_snapshotTo _) (strokes_serverInfo _ _ _)
    next hs => exact .single (.idle (not_started_of_starting hs) trivial)
    next hs => exact .single (.idle (not_started_of_stopped hs) trivial)
  · exact strokes_error _ _ _

theorem strokes_answerStarted (i : WebSocketServerInfo) (waiting : List (Nat × Nat)) (h : Host) :
    Strokes act h (answerStarted i waiting h) := by
  induction waiting generalizing h with
  | nil => exact .still h
  | cons call xs ih =>
    exact Strokes.seq (Strokes.seq (strokes_snapshotTo _) (strokes_serverInfo _ _ _)) (ih _)

theorem strokes_serverStarted (i : WebSocketServerInfo) :
    Strokes act h (h.webSocketServerStarted i) := by
  unfold Host.webSocketServerStarted
  split
  next hs =>
    exact Strokes.seq (.single (.idle (not_started_of_starting hs) ⟨rfl, rfl⟩))
      (strokes_answerStarted i _ _)
  · exact .still h

theorem strokes_controllerCreated : Strokes act h h.webSocketControllerCreated := by
  unfold webSocketControllerCreated
  split
  next hs => exact .single (.idle (not_started_of_starting hs) trivial)
  · exact .still h

theorem strokes_startFailed : Strokes act h h.webSocketStartFailed := by
  unfold webSocketStartFailed
  split
  next hs => exact .single (.idle (not_started_of_starting hs) trivial)
  · exact .still h

theorem strokes_startRejected (msg : String) : Strokes act h (h.webSocketStartRejected msg) := by
  unfold webSocketStartRejected
  split
  next waiting srv =>
    have stopped : Strokes act h (h.setRegistry ({ · with server := .stopped })) :=
      .single (.idle (not_started_of_starting srv) trivial)
    have hd : Strokes act (h.setRegistry ({ · with server := .stopped })).1
        ((h.setRegistry ({ · with server := .stopped })).1.setRegistry fun r =>
          { r with
              webSocketRequesterControlIds :=
                r.webSocketRequesterControlIds.filter (· ∉ waiting.map Prod.fst) }) :=
      strokes_view ⟨rfl, rfl, rfl, rfl, rfl⟩
    refine Strokes.seq (stopped.append hd) (.single (.said ?_))
    intro o hs
    obtain ⟨call, -, ht⟩ := mem_flatMap.mp hs
    exact plain_respond (by trivial) o ht
  · exact .still h

theorem strokes_wsOpened : Strokes act h h.webSocketOpened := by
  unfold webSocketOpened
  split
  next hs => exact .single (.opened hs)
  · exact .still h

theorem strokes_wsRegistered (id : Int) (d : Json) :
    Strokes (.webSocketRegistered id d) h (h.webSocketRegistered (Peer.registerInfo id d)) := by
  unfold webSocketRegistered
  split
  next hs =>
    split
    next hw =>
      exact Strokes.seq (Strokes.seq (.single (.registered rfl hs hw)) (strokes_snapshotTo _))
        strokes_clientList
    · exact .still h
  · exact .still h

theorem strokes_removeAppClient (id : Int) : Strokes act h (h.removeAppClient id) := by
  unfold removeAppClient
  split
  · refine Strokes.seq (.single (.appRemoved id rfl ?_)) (strokes_snapshotTo _)
    exact plain_rejectRoutes h.traffic _ _
  · exact .still h

theorem strokes_removeWebClient (id : Int) : Strokes act h (h.removeWebClient id) := by
  unfold removeWebClient
  split
  · exact Strokes.seq (Strokes.seq (.single (.webRemoved id))
      (.single (.traffic rfl (forall_mem_nil _)))) (strokes_snapshotTo _)
  · exact .still h

/- Messages -/

theorem notifications_forward (d : Json) (cid : Int) (tgt : Target) (ty : Option String)
    (fails : Bool) :
    (t.forward d cid tgt ty fails).traffic.memo.notifications = t.memo.notifications := by
  have timer : ∀ (memo : MemoizedQueryTable) (type : String) (retry : Json),
      (memo.setRetryTimer cid type retry).notifications = memo.notifications := by
    intro memo type retry
    unfold setRetryTimer
    split <;> rfl
  unfold forward rewriteOutboundMessageData
  cases getRoutableCustomizedPayload d <;> cases fails <;> cases ty <;> simp [clearPending, timer]

theorem plain_forward (d : Json) (cid : Int) (tgt : Target) (ty : Option String) (fails : Bool) :
    ∀ o ∈ (t.forward d cid tgt ty fails).outputs, o.Plain := by
  unfold forward
  cases fails <;> simp [Output.Plain]

theorem strokes_toRuntime (r : Registry) (t : Traffic) (cid : Int)
    (msg : OutboundMessage) (tgt : Target) (fails : Bool) :
    Strokes act ⟨r, t⟩ (⟨r, (t.sendMessageToRuntime r cid msg tgt fails).traffic⟩,
      (t.sendMessageToRuntime r cid msg tgt fails).outputs) := by
  have hh := toRuntime_handled r t cid msg tgt fails
  generalize t.sendMessageToRuntime r cid msg tgt fails = sent at hh ⊢
  cases hh with
  | refused err | skipped hd hkn hs => exact .still _
  | cached hf => exact .single (.cached tgt hf)
  | forwarded hd named memo ty hk =>
    refine .single (.traffic ?_ (plain_forward _ _ _ _ _ _))
    rw [notifications_forward]
    exact hk

theorem strokes_rejected (r : Registry) (t : Traffic) (ctrl pr : Nat) (err : RpcError) :
    Strokes act ⟨r, t⟩ (⟨r, (t.settle ctrl pr (.error err)).1⟩,
      (t.settle ctrl pr (.error err)).2) := by
  refine .single (.traffic rfl ?_)
  intro o hs
  cases mem_singleton.mp hs
  trivial

theorem strokes_withReply (ctrl rpc : Nat) (cid : Int) (msg : Json)
    (fails : Bool) : Strokes act h (h.onTraffic fun r t =>
      t.sendMessageWithReply r ctrl rpc cid msg fails) := by
  unfold onTraffic sendMessageWithReply
  cases getRoutableCustomizedPayload msg with
  | none =>
    refine (strokes_toRuntime h.registry h.traffic cid (.value msg)
      ⟨.control ctrl, none⟩ fails).append (.single (.said ?_))
    intro o ha
    cases mem_singleton.mp ha
    trivial
  | some routable =>
    have hp : Strokes act h (⟨h.registry,
        { h.traffic with nextPromise := h.traffic.nextPromise + 1 }⟩, []) :=
      .single (.traffic rfl nofun)
    have hs := hp.append (strokes_toRuntime h.registry
      { h.traffic with nextPromise := h.traffic.nextPromise + 1 } cid (.value msg)
      ⟨.control ctrl, some h.traffic.nextPromise⟩ fails)
    dsimp only
    split
    · exact hs
    · exact hs.append (strokes_rejected _ _ _ _ _)

theorem strokes_withoutReply (ctrl rpc : Nat) (toWeb : Bool) (cid : Int)
    (msg : Json) (fails : Bool) : Strokes act h (h.onTraffic fun r t =>
      t.sendMessageWithoutReply r ctrl rpc toWeb cid msg fails) := by
  have ha : ∀ err, ∀ o ∈ [answer ctrl rpc err], o.Plain := by
    intro err o ht
    cases mem_singleton.mp ht
    cases err <;> trivial
  unfold onTraffic sendMessageWithoutReply
  cases toWeb with
  | true =>
    refine .single (.said ?_)
    intro o hs
    rcases mem_append.mp hs with he | late
    · split at he
      · exact plain_toWeb _ _ o he
      · exact plain_toWebClient _ _ _ o he
    · exact ha none o late
  | false =>
    exact (strokes_toRuntime h.registry h.traffic cid _ _ fails).append
      (.single (.said (ha _)))

theorem app_known (hk : (r.webClients.get? id).or (r.appClients.get? id) = some i)
    (app : i.isDriver = false) : r.appClients.has i.id = true := by
  unfold webClients appClients at *
  cases hc : r.webSocketController with
  | none => simp [hc] at hk
  | some c =>
    simp only [hc, map_some, getD_some, or_eq_some_iff] at hk ⊢
    rcases hk with hf | ⟨-, hf⟩
    · simp [(c.drivers id i hf).2] at app
    · rw [(c.apps id i hf).1]
      exact has_iff.mpr ⟨i, hf⟩

theorem strokes_customizedMessage {d : Json}
    {msg : String} (fails : Bool)
    (hk : (h.registry.webClients.get? id).or (h.registry.appClients.get? id) = some i)
    (hp : JsonText.parse msg = some d)
    (hc : d.get? "event" = some (.str "Customized")) :
    Strokes act h (h.handleCustomizedMessage i d msg fails) := by
  unfold handleCustomizedMessage
  split
  · split
    · split
      · exact .still h
      · exact strokes_toRuntime h.registry h.traffic _ _ _ fails
    · exact .still h
  next app =>
    dsimp only
    split
    · refine .single (.heard (.wifi (app_known hk (eq_false_of_ne_true app)) ?_))
      rw [parseJsonMessageOrNull, hp]
      exact hc
    · exact .still h

theorem announced_announce (r : Registry) (i : WebSocketClientInfo) (v : Json) (msg : String) :
    ∀ o ∈ announce i v msg r, ∃ ctrl src id text,
      o = .event ctrl (.clientMessage src id text) ∧ src ≠ .usbRuntime := by
  have told : ∀ src, src ≠ .usbRuntime → ∀ o ∈ r.sendToWebSocketRequesters
      (.clientMessage src i.id msg), ∃ ctrl src id text,
      o = .event ctrl (.clientMessage src id text) ∧ src ≠ .usbRuntime := by
    intro src ho o hs
    obtain ⟨ctrl, -, hs⟩ := mem_flatMap.mp hs
    unfold sendToControl at hs
    split at hs
    · exact ⟨ctrl, src, i.id, msg, mem_singleton.mp hs, ho⟩
    · cases hs
  unfold announce
  split
  · exact told _ (by decide)
  · split
    · exact forall_mem_nil _
    · exact told _ (by decide)

theorem strokes_wsMessage (id : Int) (msg : String) (fails : Bool) :
    Strokes act h (h.webSocketMessage id msg fails) := by
  unfold webSocketMessage
  split
  next i hk =>
    unfold handleMessage
    split
    · exact .still h
    next v hp =>
      refine Strokes.seq (.single (.announced (announced_announce h.registry i v msg))) ?_
      split
      · refine .single (.lists ?_)
        intro o hs
        dsimp only at hs
        split at hs
        · exact ⟨i.id, mem_singleton.mp hs⟩
        · cases hs
      split
      · refine .single (.said ?_)
        intro o hs
        dsimp only at hs
        split at hs
        · cases mem_singleton.mp hs
          trivial
        · cases hs
      split
      next hc => exact strokes_customizedMessage fails hk hp hc
      · exact .still _
  · exact .still h

/- Every act -/

theorem strokes_respond (h : Host) (act : HostAct) : Strokes act h (h.respond act) := by
  cases act with
  | registerDevice dv => exact strokes_registerDevice dv
  | unregisterDevice sn closed => exact strokes_unregisterDevice sn closed
  | registerUsbClient port dv i => exact strokes_registerUsb port dv i
  | unregisterUsbClient id => exact strokes_unregisterUsb id
  | usbClientMessage id msg => exact strokes_usbMessage id msg
  | ownershipAttached ann => exact strokes_ownershipAttached ann
  | ownershipLost => exact strokes_ownershipLost
  | controlConnected ws => exact strokes_controlConnected ws
  | controlDisconnected ctrl => exact strokes_controlDisconnected ctrl
  | connectDevices ctrl rpc sn => exact strokes_fromControl (strokes_call (.inr (.inl rfl)))
  | connectUsbClients ctrl rpc dev =>
    exact strokes_fromControl (strokes_connectUsb ctrl rpc dev)
  | physicalFound ctrl rpc selected => exact strokes_physicalFound ctrl rpc selected
  | physicalAnswered ctrl rpc => exact strokes_physicalAnswered ctrl rpc
  | physicalFailed ctrl rpc msg =>
    simp only [respond, physicalFailed]
    split
    · exact Strokes.seq (strokes_endCall _ _) (strokes_error _ _ _)
    · exact .still h
  | watchersStarted ctrl rpc => exact strokes_watchersStarted ctrl rpc
  | forceDisableAllClients ctrl rpc closed =>
    simp only [respond, forceDisableAllClients]
    exact Strokes.seq (strokes_unregisterUsbs closed h) (strokes_watchersStarted ctrl rpc)
  | startWSServer ctrl rpc => exact strokes_fromControl (strokes_startWSServer ctrl rpc)
  | webSocketControllerCreated => exact strokes_controllerCreated
  | webSocketServerStarted i => exact strokes_serverStarted i
  | webSocketStartFailed => exact strokes_startFailed
  | webSocketStartRejected msg => exact strokes_startRejected msg
  | webSocketOpened => exact strokes_wsOpened
  | webSocketRegistered id d => exact strokes_wsRegistered id d
  | webSocketClosed id =>
    simp only [respond, webSocketClosed]
    exact Strokes.seq (Strokes.seq (strokes_removeAppClient id) (strokes_removeWebClient id))
      strokes_clientList
  | webSocketMessage id msg fails => exact strokes_wsMessage id msg fails
  | sendMessageWithReply ctrl rpc cid msg fails =>
    exact strokes_fromControl (strokes_withReply ctrl rpc cid msg fails)
  | sendMessageWithoutReply ctrl rpc toWeb cid msg fails =>
    exact strokes_fromControl
      (strokes_withoutReply ctrl rpc toWeb cid msg fails)
  | routeTimeout gid =>
    refine .single (.traffic ?_ ?_)
    · dsimp only [Traffic.onRouteTimeout]
      split <;> rfl
    · dsimp only [Traffic.onRouteTimeout]
      split
      · exact forall_mem_nil _
      · exact plain_rejectRoutes _ _ _
  | memoRetry cid ty retried =>
    refine .single (.traffic ?_ ?_)
    · dsimp only [Traffic.onRetryTimer, MemoizedQueryTable.onRetryTimer]
      split
      · split <;> rfl
      · rfl
    · intro o hr
      obtain ⟨msg, -, rfl⟩ := Option.map_eq_some_iff.mp (Option.mem_toList.mp hr)
      trivial
  | tick el => exact .single (.traffic rfl (forall_mem_nil _))

end Host

end DebugRouter.Daemon
