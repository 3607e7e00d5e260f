import DebugRouter.Daemon.Strokes
import DebugRouter.Daemon.Wire

/-!
Agreement of the Host with the validators of its controls. What a runtime registers with and what
a device reports is checked by nobody on the way in, so the whole message that shows it is
accepted only when all of it happens to be text.
-/
namespace DebugRouter.Daemon

open Library Protocol List Option OrderedMap Json Registry

def textual (v : Option Json) : Bool := nullish v || v.any isString

theorem isString_orElse (v : Option Json) (fallback : String) :
    isString (orElse v (.str fallback)) = textual v := by
  cases v with
  | none => rfl
  | some v => cases v <;> rfl

def presentableInfo (info : Json) : Bool :=
  textual (info.get? "App") && textual (info.get? "deviceModel") && textual (info.get? "sdkVersion")

def presentableData (data : Json) : Bool :=
  let field := fun key => textual (prop (data.get? "info") key)
  field "app" && field "debugRouterVersion" && field "deviceModel" && field "osVersion" &&
    field "sdkVersion" && (data.get? "type").any isString

theorem presentable_registerQuery (dv : Device) (i : Json) :
    (Peer.registerQuery dv i).presentable = (dv.presentable && presentableInfo i) := by
  have model : isString (Peer.registerQuery dv i).deviceModel =
      textual (i.get? "deviceModel") := by
    rw [← isString_orElse _ ""]
    unfold Peer.registerQuery
    dsimp only
    split
    next mac =>
      rw [mac.2]
      rfl
    · rfl
  unfold ClientQuery.presentable presentableInfo Device.presentable
  rw [model]
  simp only [Peer.registerQuery, isString_orElse]
  cases textual (i.get? "App") <;> cases dv.title.any isString <;> simp

theorem presentable_registerInfo (id : Int) (data : Json) :
    (Peer.registerInfo id data).presentable = presentableData data := by
  simp only [WebSocketClientInfo.presentable, Peer.registerInfo, isString_orElse, presentableData]

/- Replies. Nothing the Host rewrites in one is looked at by the validator. -/

structure SameReply (v w : Json) : Prop where
  record : v.isObject = w.isObject
  event : v.get? "event" = w.get? "event"
  data : ∀ key, key ≠ "data" → prop (v.get? "data") key = prop (w.get? "data") key
  shape : (v.get? "data").map isObject = (w.get? "data").map isObject

variable {v : Json}

theorem isResponse_congr {w : Json} (h : SameReply v w) :
    isResponseMessage v = isResponseMessage w := by
  have he : ∀ guard, required v "event" guard = required w "event" guard := by
    intro guard
    simp only [required, h.event]
  have own : v.hasOwn "data" = w.hasOwn "data" := by
    have hs := congrArg isSome h.shape
    simpa [hasOwn] using hs
  have hh : required v "data" (fun data => isRecord data && required data "id" isNumber &&
        required data "info" isRegisterInfo) =
      required w "data" fun data => isRecord data && required data "id" isNumber &&
        required data "info" isRegisterInfo := by
    have id := h.data "id" (by decide)
    have hi := h.data "info" (by decide)
    have hs := h.shape
    unfold required isRecord
    cases hl : v.get? "data" with
    | none =>
      cases hr : w.get? "data" with
      | none => rfl
      | some data => simp [hl, hr] at hs
    | some data =>
      cases hr : w.get? "data" with
      | none => simp [hl, hr] at hs
      | some data' =>
        simp only [hl, hr, prop, bind_some, map_some, some.injEq] at id hi hs
        simp only [any_some, hs, id, hi]
  have hre : isRecord v = isRecord w := h.record
  unfold isResponseMessage
  rw [hre, he, he, he, own, hh]

theorem sameReply_modifyData (v : Json) (f : Json → Json)
    (hr : ∀ data, v.get? "data" = some data → (f data).isObject = data.isObject)
    (hfi : ∀ data key, v.get? "data" = some data → key ≠ "data" → (f data).get? key = data.get? key) :
    SameReply (v.modifyAt ["data"] f) v := by
  constructor
  · unfold modifyAt
    cases hf : v.get? "data" with
    | none => rfl
    | some data => exact isObject_setField v _ _
  · simp [get?_modifyAt]
  · intro key ho
    rw [get?_modifyAt, if_pos rfl]
    unfold prop
    cases hf : v.get? "data" with
    | none => rfl
    | some data => exact hfi data key hf ho
  · rw [get?_modifyAt, if_pos rfl]
    cases hf : v.get? "data" with
    | none => rfl
    | some data => simp [hr data hf]

theorem sameReply_setData (v value : Json) :
    SameReply (v.modifyAt ["data"] (·.setField "data" value)) v := by
  apply sameReply_modifyData
  · intro data _
    exact isObject_setField data _ _
  · intro data key _ ho
    cases data with
    | obj fs => rw [get?_setField rfl, if_neg ho]
    | null | bool _ | num _ | str _ | arr _ => rfl

theorem sameReply_modifyInner (v : Json) (f : Json → Json) :
    SameReply (v.modifyAt ["data", "data"] f) v := by
  apply sameReply_modifyData v (modifyAt ["data"] f)
  · intro data _
    unfold modifyAt
    cases data.get? "data" with
    | none => rfl
    | some inner => exact isObject_setField data _ _
  · intro data key _ ho
    rw [get?_modifyAt, if_neg ho]

theorem isResponse_normalizeRaw (v : Json) (cid : Int) :
    isResponseMessage (normalizeRawResponse v cid) = isResponseMessage v := by
  unfold normalizeRawResponse
  split
  · split
    · exact isResponse_congr (sameReply_setData v _)
    · rfl
  · rfl

theorem isResponse_writeMessageId (v : Json) (pl : CustomizedPayload) (id : Int) :
    isResponseMessage (writeMessageId v pl id) = isResponseMessage v :=
  isResponse_congr (sameReply_modifyInner v _)

theorem isResponse_customized (he : v.get? "event" = some (.str "Customized"))
    (hd : (v.get? "data").isSome) : isResponseMessage v = true := by
  have hr : isRecord v = true := isObject_of_get? he
  simp [isResponseMessage, hr, required, he, isString, isText, hasOwn, hd]

theorem customized_of_type {ty : String} (h : getCustomizedType v = some ty) :
    isResponseMessage v = true := by
  unfold getCustomizedType at h
  split at h
  next he =>
    apply isResponse_customized he
    cases hf : v.get? "data" with
    | none => simp [hf, prop] at h
    | some data => rfl
  · cases h

theorem data_of_messageId {id : SafeInteger} (h : messageId v = some id) :
    (v.get? "data").isSome := by
  rw [messageId_eq] at h
  cases hf : v.get? "data" with
  | none => simp [rawMessage, innerData, prop, hf] at h
  | some data => rfl

/- What the Host holds -/

def UsbClient.Presentable (client : UsbClient) : Prop :=
  client.id.natAbs < 2 ^ 53 ∧ client.query.presentable = true

def WebSocketClientInfo.Presentable (info : WebSocketClientInfo) : Prop :=
  info.id.natAbs < 2 ^ 53 ∧ info.presentable = true

def PendingCall.Presentable : PendingCall → Prop
  | .connectDevices _ (some devices) => ∀ device ∈ devices, device.presentable = true
  | .connectUsbClients _ (some clients) => ∀ client ∈ clients, client.Presentable
  | _ => True

def WebSocketServer.Presentable : WebSocketServer → Prop
  | .started _ controller unregistered =>
    (controller.appClients.All fun _ info => info.Presentable) ∧
      (controller.webClients.All fun _ info => info.Presentable) ∧
      ∀ id ∈ unregistered, id.natAbs < 2 ^ 53
  | _ => True

structure Registry.Presentable (r : Registry) : Prop where
  devices : r.devices.All fun _ device => device.presentable = true
  clients : r.usbClients.All fun _ client => client.Presentable
  server : r.server.Presentable
  calls : r.calls.All fun _ call => call.Presentable

structure Host.Presentable (h : Host) : Prop where
  registry : h.registry.Presentable
  remembered : h.traffic.memo.notifications.All fun _ notification =>
    isResponseMessage notification.parsedValue = true

/-- What comes in from devices and runtimes is well formed. -/
def HostAct.Presentable : HostAct → Prop
  | .registerDevice device => device.presentable = true
  | .registerUsbClient _ device info => device.presentable = true ∧ presentableInfo info = true
  | .webSocketRegistered _ data => presentableData data = true
  | .usbClientMessage _ message => (messageId (parseJsonMessageOrNull message)).isSome →
    isResponseMessage (parseJsonMessageOrNull message) = true
  | _ => True

def Output.Accepted (stamp : Stamp) (id : Double) : Output → Prop
  | .event _ (.snapshot s) => received isControlEvent (snapshotEvent stamp s) = true
  | .response _ _ (.ok (.devices devices)) =>
    received (isControlRpcResponse · .connectDevices)
      (rpcResponse stamp id (.arr (devices.map serializeDevice))) = true
  | .response _ _ (.ok (.clients clients)) =>
    received (isControlRpcResponse · .connectUsbClients)
      (rpcResponse stamp id (.arr (clients.map serializeClient))) = true
  | .response _ _ (.ok (.serverInfo info)) =>
    received (isControlRpcResponse · .startWSServer)
      (rpcResponse stamp id (serializeServerInfo info)) = true
  | .settled _ _ (.ok reply) =>
    received (isControlRpcResponse · .sendMessageWithReply) (rpcResponse stamp id reply) = true
  | _ => True

variable {stamp : Stamp} {id : Double}

theorem Output.Plain.accepted {o : Output} (h : o.Plain) : o.Accepted stamp id := by
  unfold Output.Accepted
  split
  all_goals first | exact h.elim | trivial

theorem accepted_devices {devs : List Device} (h : ∀ d ∈ devs, d.presentable = true)
    (ctrl rpc : Nat) :
    (Output.response ctrl rpc (.ok (.devices devs))).Accepted stamp id := by
  have all : isArrayOf isDeviceSnapshot (.arr (devs.map serializeDevice)) =
      devs.all Device.presentable :=
    isArrayOf_map fun dv _ => isDevice_serializeDevice dv
  unfold Output.Accepted
  dsimp only
  rw [received_rpcResponse, isControlRpcResult, all, List.all_eq_true]
  exact h

theorem accepted_clients {clients : List UsbClient} (h : ∀ c ∈ clients, c.Presentable)
    (ctrl rpc : Nat) :
    (Output.response ctrl rpc (.ok (.clients clients))).Accepted stamp id := by
  have all : isArrayOf isClientSnapshot (.arr (clients.map serializeClient)) =
      clients.all (·.query.presentable) :=
    isArrayOf_map fun cl hi => isClient_serializeClient (h cl hi).1
  unfold Output.Accepted
  dsimp only
  rw [received_rpcResponse, isControlRpcResult, all, List.all_eq_true]
  exact fun cl hi => (h cl hi).2

theorem accepted_serverInfo (i : WebSocketServerInfo) (ctrl rpc : Nat) :
    (Output.response ctrl rpc (.ok (.serverInfo i))).Accepted stamp id := by
  unfold Output.Accepted
  dsimp only
  rw [received_rpcResponse, isControlRpcResult]
  exact isServerInfo_serialize i

theorem accepted_settled {reply : Json} (h : isResponseMessage reply = true) (cid : Int)
    (ctrl pr : Nat) :
    (Output.settled ctrl pr (.ok (normalizeRawResponse reply cid))).Accepted stamp id := by
  unfold Output.Accepted
  dsimp only
  rw [received_rpcResponse, isControlRpcResult, isResponse_normalizeRaw]
  exact h

/- Snapshots -/

namespace Registry
variable {r : Registry}

theorem presentable_values {κ ν : Type} [DecidableEq κ] {P : ν → Prop} {m : OrderedMap κ ν}
    (all : m.All fun _ v => P v) : ∀ v ∈ m.values, P v := by
  intro v hi
  obtain ⟨k, hf⟩ := mem_values_iff.mp hi
  exact all k v hf

theorem Presentable.controller (hp : r.Presentable) {ctl : WebSocketController}
    (hr : r.webSocketController = some ctl) :
    (∀ i ∈ ctl.appClients.values, i.Presentable) ∧
      ∀ i ∈ ctl.webClients.values, i.Presentable := by
  have hse := hp.server
  unfold webSocketController at hr
  cases hs : r.server with
  | stopped => simp [hs] at hr
  | starting waiting created =>
    cases created with
    | false => simp [hs] at hr
    | true =>
      simp only [hs, some.injEq] at hr
      subst hr
      constructor <;> exact nofun
  | started i started unreg =>
    simp only [hs, some.injEq] at hr
    subst hr
    rw [hs] at hse
    exact ⟨presentable_values hse.1, presentable_values hse.2.1⟩

theorem Presentable.createSnapshot (h : r.Presentable) :
    r.createSnapshot.Numbered ∧ r.createSnapshot.presentable = true := by
  have hd := presentable_values h.devices
  have hc := presentable_values h.clients
  have hb : ∀ listed, r.createSnapshot.websocketAppClients = some listed ∨
      r.createSnapshot.websocketWebClients = some listed → ∀ i ∈ listed, i.Presentable := by
    intro listed hs i hi
    unfold Registry.createSnapshot at hs
    cases hr : r.webSocketController with
    | none => simp [hr] at hs
    | some ctl =>
      obtain ⟨ha, web⟩ := h.controller hr
      simp only [hr, Option.map_some, Option.some.injEq] at hs
      rcases hs with rfl | rfl
      · split at hi
        · exact ha i hi
        · cases hi
      · exact web i hi
  have hh : ∀ d ∈ r.createSnapshot.devices, d.presentable = true := by
    intro d hi
    unfold Registry.createSnapshot at hi
    dsimp only at hi
    split at hi
    · exact hd d hi
    · cases hi
  have hsh : ∀ c ∈ r.createSnapshot.clients, c.Presentable := by
    intro c hi
    unfold Registry.createSnapshot at hi
    dsimp only at hi
    split at hi
    · exact hc c hi
    · cases hi
  constructor
  · exact ⟨fun c hi => (hsh c hi).1,
      fun listed hs i hi => (hb listed (.inl hs) i hi).1,
      fun listed hs i hi => (hb listed (.inr hs) i hi).1⟩
  · unfold HostSnapshot.presentable
    simp only [Bool.and_eq_true, List.all_eq_true, Option.all_eq_true]
    exact ⟨⟨⟨hh, fun c hi => (hsh c hi).2⟩,
      fun listed hs i hi => (hb listed (.inl hs) i hi).2⟩,
      fun listed hs i hi => (hb listed (.inr hs) i hi).2⟩

theorem accepted_sendSnapshot (h : r.Presentable) (controlIds : List Nat) :
    ∀ o ∈ (r.sendSnapshot controlIds).2, o.Accepted stamp id := by
  intro o hs
  obtain ⟨ctrl, -, rfl⟩ := mem_map.mp hs
  obtain ⟨hn, hsh⟩ := h.createSnapshot
  unfold Output.Accepted
  dsimp only
  rw [received_snapshotEvent stamp hn]
  exact hsh

end Registry

/- What is remembered, and what is answered -/

namespace Traffic
variable {r : Registry} {t : Traffic}

theorem accepted_toControl (ctrl : Nat) (src : MessageSource) (cid : Int)
    (msg : String) :
    ∀ o ∈ r.sendToControl ctrl (.clientMessage src cid msg), o.Accepted stamp id := by
  intro o hs
  unfold sendToControl at hs
  split at hs
  · cases mem_singleton.mp hs
    trivial
  · cases hs

variable {value : Json}

theorem accepted_toTargetDriver (tgt : Target) (cid : Int) (msg : String)
    (h : isResponseMessage value = true) :
    ∀ o ∈ (t.sendMessageToTargetDriver r tgt cid msg value).2, o.Accepted stamp id := by
  unfold sendMessageToTargetDriver
  split
  · intro o hs
    cases mem_singleton.mp hs
    exact accepted_settled h _ _ _
  · exact accepted_toControl _ _ _ _
  · exact fun o hs => (Host.plain_toWebClient r _ _ o hs).accepted

theorem accepted_deliverReply (rt : PendingRoute) (src : MessageSource)
    (h : isResponseMessage value = true) :
    ∀ o ∈ (t.deliverReply r rt value src).2, o.Accepted stamp id := by
  unfold deliverReply
  split
  · intro o hs
    cases mem_singleton.mp hs
    exact accepted_settled h _ _ _
  · exact accepted_toControl _ _ _ _
  · exact fun o hs => (Host.plain_toWebClient r _ _ o hs).accepted

variable (cid : Int)

theorem accepted_runtimeMessage (msg : String) (src : MessageSource)
    (h : (messageId (parseJsonMessageOrNull msg)).isSome →
      isResponseMessage (parseJsonMessageOrNull msg) = true) :
    ∀ o ∈ (t.handleRuntimeMessage r cid msg src).2, o.Accepted stamp id := by
  unfold handleRuntimeMessage
  dsimp only
  split
  · intro o hs
    rcases mem_append.mp hs with ht | toControls
    · exact (Host.plain_toWeb r _ o ht).accepted
    · obtain ⟨ctrl, -, rfl⟩ := mem_map.mp toControls
      trivial
  next pl gid hr =>
    split
    · exact nofun
    · split
      · apply accepted_deliverReply
        rw [isResponse_writeMessageId]
        exact h (by simp [messageId, hr])
      · exact nofun

theorem remembered_runtimeMessage (msg : String) (src : MessageSource)
    (h : t.memo.notifications.All fun _ note => isResponseMessage note.parsedValue = true) :
    (t.handleRuntimeMessage r cid msg src).1.memo.notifications.All fun _ note =>
      isResponseMessage note.parsedValue = true := by
  unfold handleRuntimeMessage
  dsimp only
  split
  · unfold handleNotification MemoizedQueryTable.recordNotification
    dsimp only
    split
    · exact h
    next ht =>
      split
      · exact h
      · exact h.set (customized_of_type ht)
  · split
    · exact h
    · split
      · unfold deliverReply settle
        split <;> exact h
      · exact h

end Traffic

/- One stroke -/

namespace Registry
variable {r : Registry}

theorem small_createId (r : Registry) : r.createClientId.2.natAbs < 2 ^ 53 := by
  unfold createClientId
  split
  · exact show (-1 : Int).natAbs < 2 ^ 53 by decide
  · dsimp only
    omega

theorem Presentable.createClientId (h : r.Presentable) : r.createClientId.1.Presentable := by
  obtain ⟨hd, hcl, hse, hc⟩ := h
  have hs := Host.sameView_createId r
  constructor
  · rw [hs.devices]
    exact hd
  · rw [hs.usbClients]
    exact hcl
  · rw [hs.server]
    exact hse
  · rw [hs.calls]
    exact hc

theorem Presentable.called (hp : r.Presentable) {key : Nat × Nat} {call : PendingCall}
    (hc : r.Called key call) : call.Presentable := by
  rcases hc with old | fresh | ⟨old, selected, found, rfl⟩
  · exact hp.calls key call old
  · cases call with
    | connectDevices sn found | connectUsbClients dev found =>
      cases (show found = none from fresh)
      trivial
  · have before := hp.calls key old found
    have hd := presentable_values hp.devices
    unfold Host.found
    split
    · intro dv hi
      unfold Host.findDevice at hi
      split at hi
      · exact hd dv hi
      · exact hp.devices _ dv (mem_toList.mp hi)
    · intro cl hi
      exact presentable_values hp.clients cl (mem_of_mem_filter hi)
    · exact before

variable {ctl : WebSocketController}

theorem Presentable.started (hp : r.Presentable) {i : WebSocketServerInfo}
    {unreg : List Int}
    (hs : r.server = .started i ctl unreg) :
    (WebSocketServer.started i ctl unreg).Presentable := by
  rw [← hs]
  exact hp.server

theorem Presentable.updateController (hp : r.Presentable)
    {f : WebSocketController → WebSocketController}
    (ha : ∀ ctl P, ctl.appClients.All P → (f ctl).appClients.All P)
    (web : ∀ ctl P, ctl.webClients.All P → (f ctl).webClients.All P) :
    (Host.updateController f r).Presentable := by
  unfold Host.updateController
  split
  next i ctl unreg hs =>
    obtain ⟨appClients, webClients, hsm⟩ := hp.started hs
    exact ⟨hp.devices, hp.clients,
      ⟨ha ctl _ appClients, web ctl _ webClients, hsm⟩, hp.calls⟩
  · exact hp

theorem presentable_add {i : WebSocketClientInfo}
    (hp : i.Presentable) (ha : ctl.appClients.All fun _ i => i.Presentable)
    (web : ctl.webClients.All fun _ i => i.Presentable) :
    ((ctl.add i).appClients.All fun _ i => i.Presentable) ∧
      (ctl.add i).webClients.All fun _ i => i.Presentable := by
  unfold WebSocketController.add
  split
  · exact ⟨ha, web.set hp⟩
  · exact ⟨ha.set hp, web⟩

end Registry

namespace Host

theorem remembered_clearClient {t t' : Traffic} {cid : Int}
    {P : Int × String → MemoizedNotification → Prop}
    (hc : t'.memo = t.memo.clearClient cid) (hb : t.memo.notifications.All P) :
    t'.memo.notifications.All P := by
  rw [hc]
  intro key note hf
  exact hb key note (get?_filter_eq_some.mp hf).1

variable {act : HostAct}

theorem presentable_stroke (hwe : act.Presentable) (h h' : Host)
    (outputs : List Output) (hpr : h.Presentable) (hst : Stroke act h h' outputs) :
    h'.Presentable ∧ ∀ o ∈ outputs, o.Accepted stamp id := by
  obtain ⟨hre, hr⟩ := hpr
  have ⟨hd, hc, hse, calls⟩ := hre
  cases hst with
  | said hp => exact ⟨⟨hre, hr⟩, fun o hs => (hp o hs).accepted⟩
  | snapshot controlIds =>
    exact ⟨⟨⟨hd, hc, hse, calls⟩, hr⟩,
      accepted_sendSnapshot hre controlIds⟩
  | lists he =>
    refine ⟨⟨hre, hr⟩, ?_⟩
    intro o hs
    obtain ⟨_, rfl⟩ := he o hs
    trivial
  | announced he =>
    refine ⟨⟨hre, hr⟩, ?_⟩
    intro o hs
    obtain ⟨_, _, _, _, rfl, -⟩ := he o hs
    trivial
  | devicesFound hca he =>
    refine ⟨⟨⟨hd, hc, hse, calls.delete _⟩, hr⟩, ?_⟩
    intro o hs
    cases he o hs
    exact accepted_devices (calls _ _ hca) _ _
  | clientsFound hca he =>
    refine ⟨⟨⟨hd, hc, hse, calls.delete _⟩, hr⟩, ?_⟩
    intro o hs
    cases he o hs
    exact accepted_clients (calls _ _ hca) _ _
  | noClients he =>
    refine ⟨⟨hre, hr⟩, ?_⟩
    intro o hs
    cases he o hs
    exact accepted_clients (fun cl hi => absurd hi not_mem_nil) _ _
  | serverInfo he =>
    refine ⟨⟨hre, hr⟩, ?_⟩
    intro o hs
    obtain ⟨_, _, rfl⟩ := he o hs
    exact accepted_serverInfo _ _ _
  | view hsa =>
    refine ⟨⟨⟨?_, ?_, ?_, ?_⟩, hr⟩, nofun⟩
    · rw [hsa.devices]
      exact hd
    · rw [hsa.usbClients]
      exact hc
    · rw [hsa.server]
      exact hse
    · rw [hsa.calls]
      exact calls
  | calls calls' hca =>
    refine ⟨⟨⟨hd, hc, hse, ?_⟩, hr⟩, nofun⟩
    exact fun key call hf => hre.called (hca key call hf)
  | deviceAdded own =>
    subst own
    exact ⟨⟨⟨hd.set hwe, hc, hse, calls⟩, hr⟩, nofun⟩
  | deviceRemoved sn => exact ⟨⟨⟨hd.delete sn, hc, hse, calls⟩, hr⟩, nofun⟩
  | @usbAdded r t port dv i own =>
    subst own
    obtain ⟨hd, hc, hse, calls⟩ := hre.createClientId
    refine ⟨⟨⟨hd, hc.set ⟨r.small_createId, ?_⟩, hse, calls⟩, hr⟩, nofun⟩
    rw [presentable_registerQuery, hwe.1, hwe.2]
    rfl
  | usbRemoved gone => exact ⟨⟨⟨hd, hc.delete gone, hse, calls⟩, hr⟩, nofun⟩
  | attached own => exact ⟨⟨⟨hd, hc, hse, calls⟩, hr⟩, nofun⟩
  | lost own hcl hp =>
    refine ⟨⟨⟨hd, all_empty, hse, calls⟩, ?_⟩, fun o hs => (hp o hs).accepted⟩
    rw [hcl]
    exact all_empty
  | @idle r t server' hb haf =>
    refine ⟨⟨⟨hd, hc, ?_, calls⟩, hr⟩, nofun⟩
    cases server' with
    | started i ctl unreg =>
      obtain ⟨rfl, rfl⟩ := haf
      exact ⟨all_empty, all_empty, nofun⟩
    | stopped | starting _ _ => trivial
  | @opened r t i ctl unreg started =>
    obtain ⟨ha, web, hsm⟩ := hre.started started
    obtain ⟨hd, hc, -, calls⟩ := hre.createClientId
    refine ⟨⟨⟨hd, hc, ⟨ha, web, ?_⟩, calls⟩, hr⟩, nofun⟩
    intro id hi
    rcases mem_append.mp hi with old | fresh
    · exact hsm id old
    · rw [mem_singleton.mp fresh]
      exact r.small_createId
  | @registered r t i ctl unreg waitingId data own started hw =>
    subst own
    obtain ⟨ha, web, hsm⟩ := hre.started started
    have shown : (Peer.registerInfo waitingId data).Presentable := by
      constructor
      · exact hsm waitingId hw
      · rw [presentable_registerInfo]
        exact hwe
    obtain ⟨ha', web'⟩ := presentable_add shown ha web
    refine ⟨⟨⟨hd, hc, ⟨ha', web', ?_⟩, calls⟩, hr⟩, nofun⟩
    exact fun id hi => hsm id (mem_of_mem_erase hi)
  | appRemoved gone hcl hp =>
    refine ⟨⟨?_, remembered_clearClient hcl hr⟩, fun o hs => (hp o hs).accepted⟩
    exact hre.updateController (fun _ _ all => all.delete gone) fun _ _ all => all
  | webRemoved gone =>
    refine ⟨⟨?_, hr⟩, nofun⟩
    exact hre.updateController (fun _ _ all => all) fun _ _ all => all.delete gone
  | traffic hk hp =>
    refine ⟨⟨hre, ?_⟩, fun o hs => (hp o hs).accepted⟩
    rw [hk]
    exact hr
  | forgotten cid hcl hp =>
    exact ⟨⟨hre, remembered_clearClient hcl hr⟩, fun o hs => (hp o hs).accepted⟩
  | cached tgt hf =>
    refine ⟨⟨hre, ?_⟩, Traffic.accepted_toTargetDriver tgt _ _ (hr _ _ hf)⟩
    rw [Traffic.notifications_toTargetDriver]
    exact hr
  | heard heard =>
    refine ⟨⟨hre, Traffic.remembered_runtimeMessage _ _ _ hr⟩, ?_⟩
    apply Traffic.accepted_runtimeMessage
    cases heard with
    | usb own attached =>
      subst own
      exact hwe
    | wifi hkn hcu =>
      intro hn
      obtain ⟨messageId, hv⟩ := isSome_iff_exists.mp hn
      exact isResponse_customized hcu (data_of_messageId hv)

/- Whole runs -/

theorem presentable_initial (ws : Bool) : (initial ws).Presentable :=
  ⟨⟨all_empty, all_empty, trivial, all_empty⟩, all_empty⟩

theorem presentable_step {h : Host} (hw : act.Presentable) (hp : h.Presentable) (stamp : Stamp)
    (id : Double) :
    (h.step act).Presentable ∧ ∀ o ∈ h.outputs act, o.Accepted stamp id :=
  (strokes_respond h act).upholds (presentable_stroke hw) hp

/-- While what devices and runtimes report is well formed, every message of the Host passes the
validators of the control it is sent to. -/
theorem controls_accept_host (enableWebSocket : Bool) (acts : List HostAct)
    (wellFormed : ∀ act ∈ acts, act.Presentable) (stamp : Stamp) (id : Double) :
    Along step (fun h act => ∀ o ∈ h.outputs act, o.Accepted stamp id) (initial enableWebSocket)
      acts := by
  apply along_of_allowed _ (presentable_initial enableWebSocket) wellFormed
  intro h act hp ha
  exact presentable_step ha hp stamp id

theorem controls_accept_register :
    let one : Double := JsNumber.smallDouble 1 (by decide)
    let stamp : Stamp := ⟨one, one, one, one, none⟩
    let phone : Device := ⟨"Android", some (.str "phone"), "serial", [], "127.0.0.1"⟩
    let acts := [.ownershipAttached true, .controlConnected false, .registerDevice phone,
      HostAct.registerUsbClient 8901 phone (.obj [("App", .str "demo")])]
    Along step (fun h act => ∀ o ∈ h.outputs act, o.Accepted stamp one) (initial true) acts := by
  intro one stamp phone acts
  apply controls_accept_host
  intro act hi
  simp only [acts, mem_cons, not_mem_nil, or_false] at hi
  rcases hi with rfl | rfl | rfl | rfl
  · trivial
  · trivial
  · rfl
  · exact ⟨rfl, rfl⟩

/-- A runtime that registers with a number for its `App` spoils the snapshot of every control. -/
theorem register_spoils_snapshot :
    let phone : Device := ⟨"Android", some (.str "phone"), "serial", [], "127.0.0.1"⟩
    let h :=
      [.ownershipAttached true, .controlConnected false, HostAct.registerDevice phone].foldl step
      (initial true)
    ∃ s, Output.event 1 (.snapshot s) ∈ h.outputs
      (.registerUsbClient 8901 phone (.obj [("App", ofInt 5)])) ∧
      ∀ stamp, received isControlEvent (snapshotEvent stamp s) = false := by
  intro phone h
  let spoilt : HostSnapshot :=
    ⟨[phone], [⟨8901, 1, Peer.registerQuery phone (.obj [("App", ofInt 5)])⟩], none, none⟩
  have hn : spoilt.Numbered := by simp [HostSnapshot.Numbered, spoilt]
  refine ⟨spoilt, mem_singleton.mpr rfl, fun stamp => ?_⟩
  rw [received_snapshotEvent stamp hn]
  rfl

end Host

end DebugRouter.Daemon
