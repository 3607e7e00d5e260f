import DebugRouter.Daemon.Strokes

/-!
What stays hidden without legacy ownership. Snapshots list no device and no runtime, ClientLists
list no USB runtime, and what a USB runtime says, or said before the loss, reaches nobody.
-/
namespace DebugRouter.Daemon

open Library List OrderedMap Registry Traffic

/-- It lists no device and no runtime where it could list them by itself, and it is not the word
of a USB runtime. -/
def Output.Hidden : Output → Prop
  | .event _ (.snapshot s) => s.devices = [] ∧ s.clients = [] ∧ s.websocketAppClients.getD [] = []
  | .event _ (.clientMessage source _ _) => source ≠ .usbRuntime
  | .clientList _ entries => ∀ entry ∈ entries, entry.network ≠ "USB"
  | _ => True

namespace Registry
variable {r : Registry}

theorem hidden_sendSnapshot (h : r.legacyOwnershipAttached = false) (controlIds : List Nat) :
    ∀ o ∈ (r.sendSnapshot controlIds).2, o.Hidden := by
  intro o hs
  obtain ⟨id, -, rfl⟩ := mem_map.mp hs
  unfold Output.Hidden createSnapshot
  rw [h]
  refine ⟨rfl, rfl, ?_⟩
  cases r.webSocketController <;> rfl

theorem network_clientList (h : r.legacyOwnershipAttached = false) (wid : Int) :
    ∀ e ∈ r.clientList wid, e.network ≠ "USB" := by
  intro e hl
  unfold clientList getAllUsbClients at hl
  simp only [h, Bool.false_eq_true, if_false, map_nil, append_nil] at hl
  obtain ⟨i, -, rfl⟩ := mem_map.mp (mem_of_mem_filter hl)
  simp [wifiEntry]

variable {ev : ControlEvent}

theorem hidden_toControl {ctrl : Nat}
    (h : (Output.event ctrl ev).Hidden) : ∀ o ∈ r.sendToControl ctrl ev, o.Hidden := by
  intro o hs
  unfold sendToControl at hs
  split at hs
  · cases mem_singleton.mp hs
    exact h
  · cases hs

theorem hidden_broadcast (h : ∀ id, (Output.event id ev).Hidden) :
    ∀ o ∈ r.broadcast ev, o.Hidden := by
  intro o hs
  obtain ⟨id, -, rfl⟩ := mem_map.mp hs
  exact h id

theorem hidden_toWeb (message : String) : ∀ o ∈ r.sendMessageToWeb message, o.Hidden := by
  intro o hs
  unfold sendMessageToWeb at hs
  split at hs
  · obtain ⟨id, -, rfl⟩ := mem_map.mp hs
    trivial
  · cases hs

theorem hidden_toWebClient (wid : Int) (message : String) :
    ∀ o ∈ r.sendMessageToWebClient wid message, o.Hidden := by
  intro o hs
  unfold sendMessageToWebClient at hs
  split at hs
  · cases mem_singleton.mp hs
    trivial
  · cases hs

end Registry

/- Traffic: what is remembered, and what is sent -/

namespace Traffic
variable {r : Registry} {t : Traffic}

def remembers (t : Traffic) (clientId : Int) : Prop :=
  ∃ notificationType, t.memo.notifications.has (clientId, notificationType) = true

variable {clientId id : Int} {message : String} {t' : Traffic}

theorem remembers_record {v : Json}
    (h : { t with
      memo := t.memo.recordNotification t.clock clientId message v }.remembers id) :
    t.remembers id ∨ id = clientId := by
  obtain ⟨nty, has⟩ := h
  unfold MemoizedQueryTable.recordNotification at has
  split at has
  · exact .inl ⟨nty, has⟩
  · dsimp only at has
    split at has
    · exact .inl ⟨nty, has⟩
    · simp only [MemoizedQueryTable.clearPending, has_set, Bool.or_eq_true,
        decide_eq_true_eq, Prod.mk.injEq] at has
      rcases has with old | ⟨hs, -⟩
      · exact .inl ⟨nty, old⟩
      · exact .inr hs.symm

theorem hidden_toTargetDriver (tgt : Target) (clientId : Int) (message : String)
    (v : Json) (h : r.appClients.has clientId = true) :
    ∀ o ∈ (t.sendMessageToTargetDriver r tgt clientId message v).2, o.Hidden := by
  unfold sendMessageToTargetDriver
  split
  · simp [settle, Output.Hidden]
  · refine hidden_toControl ?_
    simp [Output.Hidden, h]
  · exact hidden_toWebClient _ _

theorem hidden_runtimeMessage (clientId : Int) (message : String) :
    ∀ o ∈ (t.handleRuntimeMessage r clientId message .websocketRuntime).2, o.Hidden := by
  unfold handleRuntimeMessage
  dsimp only
  split
  · intro o hs
    rcases mem_append.mp hs with ht | toControls
    · exact hidden_toWeb _ o ht
    · exact hidden_broadcast (fun _ => by simp [Output.Hidden]) o toControls
  · split
    · exact nofun
    · split
      · unfold deliverReply
        split
        · simp [settle, Output.Hidden]
        · exact hidden_toControl (by simp [Output.Hidden])
        · exact hidden_toWebClient _ _
      · exact nofun

theorem remembers_runtimeMessage {src : MessageSource}
    (h : (t.handleRuntimeMessage r clientId message src).1.remembers id) :
    t.remembers id ∨ id = clientId := by
  unfold handleRuntimeMessage at h
  dsimp only at h
  split at h
  · exact remembers_record h
  · split at h
    · exact .inl h
    · split at h
      · unfold deliverReply settle at h
        split at h <;> exact .inl h
      · exact .inl h

theorem remembers_clearClient (hc : t'.memo = t.memo.clearClient clientId) (hr : t'.remembers id) :
    t.remembers id ∧ id ≠ clientId := by
  obtain ⟨nty, has⟩ := hr
  rw [hc] at has
  obtain ⟨note, hf⟩ := has_iff.mp has
  obtain ⟨hb, ho⟩ := get?_filter_eq_some.mp hf
  exact ⟨⟨nty, has_iff.mpr ⟨note, hb⟩⟩, by simpa using ho⟩

theorem remembers_same (hk : t'.memo.notifications = t.memo.notifications) (hr : t'.remembers id) :
    t.remembers id := by
  unfold remembers at *
  rw [← hk]
  exact hr

end Traffic

theorem Output.Plain.hidden {o : Output} (h : o.Plain) : o.Hidden := by
  unfold Output.Hidden
  split
  · exact h.elim
  · exact h.elim
  · exact h.elim
  · trivial

namespace Host
variable {act : HostAct} {h h' : Host} {outputs : List Output}

/-- Ownership is not attached, and only what WiFi runtimes said is remembered. -/
structure Veiled (h : Host) : Prop where
  unattached : h.registry.legacyOwnershipAttached = false
  sourced : ∀ id, h.traffic.remembers id → h.registry.appClients.has id = true

variable {r r' : Registry} {id gone : Int} {t : Traffic}

theorem appClients_started {i : WebSocketServerInfo} {ctl : WebSocketController} {unreg : List Int}
    (h : r.server = .started i ctl unreg) :
    r.appClients = ctl.appClients := by
  simp [appClients, webSocketController, h]

theorem appClients_sameView (h : r.SameView r') : r'.appClients = r.appClients := by
  simp [appClients, webSocketController, h.server]

theorem appClients_add (ctl : WebSocketController) (i : WebSocketClientInfo)
    (has : ctl.appClients.has id = true) : (ctl.add i).appClients.has id = true := by
  unfold WebSocketController.add
  split
  · exact has
  · simp [has_set, has]

theorem appClients_removeApp (ho : id ≠ gone) (has : r.appClients.has id = true) :
    (updateController (·.removeApp gone) r).appClients.has id = true := by
  unfold updateController
  split
  next hs =>
    rw [appClients_started hs] at has
    rw [appClients_started rfl]
    simp [WebSocketController.removeApp, has_delete, has, ho.symm]
  · exact has

theorem appClients_removeWeb (has : r.appClients.has id = true) :
    (updateController (·.removeWeb gone) r).appClients.has id = true := by
  unfold updateController
  split
  next hs =>
    rw [appClients_started hs] at has
    rw [appClients_started rfl]
    exact has
  · exact has

theorem ownership_update (f : WebSocketController → WebSocketController) (r : Registry) :
    (updateController f r).ownership = r.ownership := by
  unfold updateController
  split <;> rfl

theorem Veiled.of_registry (hv : Veiled ⟨r, t⟩) (hsa : r'.ownership = r.ownership)
    (ha : ∀ id, r.appClients.has id = true → r'.appClients.has id = true) : Veiled ⟨r', t⟩ := by
  obtain ⟨hu, hs⟩ := hv
  refine ⟨?_, fun id hr => ha id (hs id hr)⟩
  unfold legacyOwnershipAttached at *
  rw [hsa]
  exact hu

theorem Veiled.of_traffic {t' : Traffic} (hv : Veiled ⟨r, t⟩)
    (hk : ∀ id, t'.remembers id → t.remembers id ∨ r.appClients.has id = true) : Veiled ⟨r, t'⟩ := by
  refine ⟨hv.unattached, ?_⟩
  intro id hr
  rcases hk id hr with old | wifi
  · exact hv.sourced id old
  · exact wifi

theorem veiled_stroke (ho : ∀ ann, act ≠ .ownershipAttached ann) (h h' : Host)
    (outputs : List Output) (hv : h.Veiled) (hst : Stroke act h h' outputs) :
    h'.Veiled ∧ ∀ o ∈ outputs, o.Hidden := by
  cases hst with
  | said hp => exact ⟨hv, fun o hs => (hp o hs).hidden⟩
  | snapshot controlIds =>
    exact ⟨hv.of_registry rfl fun _ => id, hidden_sendSnapshot hv.unattached controlIds⟩
  | lists he =>
    refine ⟨hv, ?_⟩
    intro o hs
    obtain ⟨id, rfl⟩ := he o hs
    exact network_clientList hv.unattached id
  | announced he =>
    refine ⟨hv, ?_⟩
    intro o hs
    obtain ⟨ctrl, src, id, message, rfl, hd⟩ := he o hs
    exact hd
  | devicesFound hca he | clientsFound hca he =>
    refine ⟨hv.of_registry rfl fun _ => id, ?_⟩
    intro o hs
    cases he o hs
    trivial
  | noClients he =>
    refine ⟨hv, ?_⟩
    intro o hs
    cases he o hs
    trivial
  | serverInfo he =>
    refine ⟨hv, ?_⟩
    intro o hs
    obtain ⟨ctrl, rpc, rfl⟩ := he o hs
    trivial
  | @view r r' t same =>
    refine ⟨hv.of_registry same.ownership ?_, nofun⟩
    intro id has
    rw [appClients_sameView same]
    exact has
  | calls calls' hca | deviceAdded own | deviceRemoved sn =>
    exact ⟨hv.of_registry rfl fun _ => id, nofun⟩
  | @usbAdded r t port dv i own =>
    have same := sameView_createId r
    refine ⟨hv.of_registry same.ownership ?_, nofun⟩
    intro id has
    exact (appClients_sameView same).symm ▸ has
  | usbRemoved id => exact ⟨hv.of_registry rfl fun _ has => has, nofun⟩
  | attached own => exact absurd own (ho _)
  | lost own hc hp =>
    refine ⟨⟨rfl, ?_⟩, fun o hs => (hp o hs).hidden⟩
    rintro id ⟨nty, has⟩
    rw [hc] at has
    cases has
  | idle hb ha =>
    refine ⟨hv.of_registry rfl ?_, nofun⟩
    intro id has
    rw [(clients_not_started hb).1] at has
    cases has
  | @opened r t i ctl unreg hse =>
    refine ⟨hv.of_registry (sameView_createId r).ownership ?_, nofun⟩
    intro id has
    rw [appClients_started hse] at has
    rw [appClients_started rfl]
    exact has
  | registered own hse hw =>
    refine ⟨hv.of_registry rfl ?_, nofun⟩
    intro id has
    rw [appClients_started hse] at has
    rw [appClients_started rfl]
    exact appClients_add _ _ has
  | @appRemoved r t t' outputs gone hc hp =>
    obtain ⟨hu, hso⟩ := hv
    refine ⟨⟨?_, ?_⟩, fun o hs => (hp o hs).hidden⟩
    · unfold legacyOwnershipAttached at *
      rw [ownership_update]
      exact hu
    · intro id hr
      obtain ⟨old, hd⟩ := remembers_clearClient hc hr
      exact appClients_removeApp hd (hso id old)
  | webRemoved gone =>
    exact ⟨hv.of_registry (ownership_update _ _) fun _ => appClients_removeWeb, nofun⟩
  | traffic hk hp =>
    refine ⟨hv.of_traffic ?_, fun o hs => (hp o hs).hidden⟩
    exact fun _ hr => .inl (remembers_same hk hr)
  | forgotten clientId hc hp =>
    refine ⟨hv.of_traffic ?_, fun o hs => (hp o hs).hidden⟩
    intro id hr
    exact .inl (remembers_clearClient hc hr).1
  | cached tgt hf =>
    refine ⟨hv.of_traffic ?_, ?_⟩
    · intro id hr
      exact .inl (remembers_same
        (notifications_toTargetDriver _ _ _ _) hr)
    · exact hidden_toTargetDriver tgt _ _ _
        (hv.sourced _ ⟨_, has_iff.mpr ⟨_, hf⟩⟩)
  | heard heard =>
    cases heard with
    | usb own attached => exact absurd attached (by simp [hv.unattached])
    | wifi hkn hcu =>
      refine ⟨hv.of_traffic ?_, hidden_runtimeMessage _ _⟩
      intro id hr
      rcases remembers_runtimeMessage hr with old | rfl
      · exact .inl old
      · exact .inr hkn

theorem attached_stroke (hk : act ≠ .ownershipLost) (h h' : Host) (outputs : List Output)
    (hb : h.registry.ownership = .attached) (hst : Stroke act h h' outputs) :
    h'.registry.ownership = .attached ∧ ∀ o ∈ outputs, True := by
  refine ⟨?_, fun _ _ => trivial⟩
  cases hst with
  | view hs => exact hs.ownership.trans hb
  | usbAdded own | opened hse => exact (sameView_createId _).ownership.trans hb
  | appRemoved gone hc hp | webRemoved gone => exact (ownership_update _ _).trans hb
  | attached own => rfl
  | lost own hc hp => exact absurd own hk
  | _ => exact hb

theorem unattached_before (hk : act ≠ .ownershipLost)
    (hu : (h.step act).registry.legacyOwnershipAttached = false) :
    h.registry.legacyOwnershipAttached = false := by
  cases hb : h.registry.legacyOwnershipAttached with
  | false => rfl
  | true =>
    have owned : h.registry.ownership = .attached := by simpa [legacyOwnershipAttached] using hb
    have still := ((strokes_respond h act).upholds (attached_stroke hk) owned).1
    simp only [legacyOwnershipAttached, step, still] at hu
    cases hu

def lossTold (h : Host) : Host × List Output :=
  seq (seq h.broadcastSnapshot (say · sendClientList))
    (say · (·.broadcast (.legacyOwnershipChanged false)))

theorem ownershipLost_eq (ha : h.registry.legacyOwnershipAttached = true) :
    h.ownershipLost = seq h.losing lossTold := by
  simp only [ownershipLost, ha, if_true, handleLegacyOwnershipLost, losing, lossTold, seq,
    append_assoc]

theorem veiled_ownershipLost (hat : h.registry.legacyOwnershipAttached = true) :
    h.ownershipLost.1.Veiled ∧ ∀ o ∈ h.ownershipLost.2, o.Hidden := by
  have lost : h.losing.1.Veiled := by
    refine ⟨rfl, ?_⟩
    rintro id ⟨nty, has⟩
    cases has
  have told : Strokes .ownershipLost h.losing.1 (lossTold h.losing.1) :=
    Strokes.seq (Strokes.seq (strokes_snapshotTo _) strokes_clientList)
      (.single (.said plain_broadcast))
  obtain ⟨ha, hl⟩ := told.upholds (veiled_stroke (by simp)) lost
  rw [ownershipLost_eq hat]
  refine ⟨ha, ?_⟩
  intro o hs
  rcases mem_append.mp hs with he | told
  · rcases mem_append.mp he with hr | none
    · exact (plain_rejectRoutes h.traffic _ _ o hr).hidden
    · cases none
  · exact hl o told

theorem veiled_step (hb : h.registry.legacyOwnershipAttached = false → h.Veiled) (act : HostAct)
    (hu : (h.step act).registry.legacyOwnershipAttached = false) :
    (h.step act).Veiled ∧ ∀ o ∈ h.outputs act, o.Hidden := by
  by_cases hg : ∃ announced, act = .ownershipAttached announced
  · obtain ⟨announced, rfl⟩ := hg
    cases hu
  · have other : ∀ announced, act ≠ .ownershipAttached announced := by simpa using hg
    cases ha : h.registry.legacyOwnershipAttached with
    | false => exact (strokes_respond h act).upholds (veiled_stroke other) (hb ha)
    | true =>
      by_cases hl : act = .ownershipLost
      · subst hl
        exact veiled_ownershipLost ha
      · rw [unattached_before hl hu] at ha
        cases ha

end Host

/- ClientLists and snapshots -/

namespace Registry

variable (r : Registry)

theorem map_id_clientList (wid : Int) : (r.clientList wid).map ClientListEntry.id =
      (r.appClients.keys ++ r.createSnapshot.clientIds).filter (· ≠ wid) := by
  have ids : (r.appClients.values.map wifiEntry ++ r.getAllUsbClients.map usbEntry).map
      ClientListEntry.id = r.appClients.keys ++ r.createSnapshot.clientIds := by
    rw [← map_id_appClients, map_append, map_map, map_map]
    rfl
  rw [← ids, filter_map]
  rfl

theorem map_id_usbEntries (wid : Int) :
    ((r.clientList wid).filter (·.network = "USB")).map ClientListEntry.id =
      r.createSnapshot.clientIds.filter (· ≠ wid) := by
  have wifi : (r.appClients.values.map wifiEntry).filter (·.network = "USB") = [] := by
    rw [filter_eq_nil_iff]
    intro e hl
    obtain ⟨i, -, rfl⟩ := mem_map.mp hl
    simp [wifiEntry]
  have usb : (r.getAllUsbClients.map usbEntry).filter (·.network = "USB") =
      r.getAllUsbClients.map usbEntry := by
    rw [filter_eq_self]
    intro e hl
    obtain ⟨cl, -, rfl⟩ := mem_map.mp hl
    simp [usbEntry]
  have ids : (r.getAllUsbClients.map usbEntry).map ClientListEntry.id =
      r.createSnapshot.clientIds := by
    rw [map_map]
    rfl
  unfold clientList
  rw [filter_comm, filter_append, wifi, usb, nil_append, ← ids]
  generalize r.getAllUsbClients.map usbEntry = es
  rw [filter_map]
  rfl

end Registry

namespace Host

/-- What the gates of the Host let through without ownership. -/
def Gated (h : Host) : HostAct → Prop
  | .usbClientMessage id message => h.respond (.usbClientMessage id message) = (h, [])
  | .connectUsbClients controlId rpcId deviceId =>
    h.step (.connectUsbClients controlId rpcId deviceId) = h ∧
      ∀ o ∈ h.outputs (.connectUsbClients controlId rpcId deviceId),
        o = .response controlId rpcId (.ok (.clients [])) ∨
          o = .response controlId rpcId (.error legacyOwnerNotAttached)
  | _ => True

variable {h : Host}

theorem connectUsb_unattached (hu : h.registry.legacyOwnershipAttached = false)
    (ctrl rpc : Nat) (dev : String) :
    (h.connectUsbClients ctrl rpc dev).1 = h ∧ ∀ o ∈ (h.connectUsbClients ctrl rpc dev).2,
        o = .response ctrl rpc (.ok (.clients [])) ∨
          o = .response ctrl rpc (.error legacyOwnerNotAttached) := by
  have ht : ∀ result, ∀ o ∈ h.registry.respond ctrl rpc result, o = .response ctrl rpc result := by
    intro result o hs
    unfold Registry.respond at hs
    split at hs
    · exact List.mem_singleton.mp hs
    · cases hs
  unfold connectUsbClients
  rw [hu]
  split
  · exact ⟨rfl, fun o hs => .inr (ht _ o hs)⟩
  · exact ⟨rfl, fun o hs => .inl (ht _ o hs)⟩

theorem gated_of_unattached (act : HostAct)
    (hu : (h.step act).registry.legacyOwnershipAttached = false) : h.Gated act := by
  cases act with
  | usbClientMessage id message =>
    have hh := unattached_before (by simp) hu
    simp [Gated, respond, handleUsbClientMessage, hh, still]
  | connectUsbClients ctrl rpc dev =>
    have hh := unattached_before (by simp) hu
    have told := connectUsb_unattached hh ctrl rpc dev
    simp only [Gated, step, outputs, respond, fromControl]
    split
    · exact told
    · exact ⟨rfl, forall_mem_nil _⟩
  | _ => trivial

/-- Without ownership the Host's own reports show no device and no USB runtime, snapshots no WiFi
runtime either, and USB runtimes are neither heard nor looked for. A ClientList always agrees with
the snapshot on the USB runtimes, and on all runtimes while ownership is attached. -/
theorem unattached_hides (enableWebSocket : Bool) (acts : List HostAct) :
    Along step (fun h act => (h.step act).registry.legacyOwnershipAttached = false →
        (∀ o ∈ h.outputs act, o.Hidden) ∧ h.Gated act ∧
          ∀ id, (h.step act).traffic.remembers id → (h.step act).registry.appClients.has id = true)
      (initial enableWebSocket) acts ∧
    ∀ (r : Registry) (webClientId : Int),
      ((r.clientList webClientId).filter (·.network = "USB")).map ClientListEntry.id =
          r.createSnapshot.clientIds.filter (· ≠ webClientId) ∧
        (r.legacyOwnershipAttached = true → (r.clientList webClientId).map ClientListEntry.id =
          (r.createSnapshot.appIds ++ r.createSnapshot.clientIds).filter (· ≠ webClientId)) := by
  refine ⟨?_, fun r webClientId => ⟨r.map_id_usbEntries webClientId, fun ha => ?_⟩⟩
  · let Inv : Host → Prop := fun h => h.registry.legacyOwnershipAttached = false → h.Veiled
    have start : Inv (initial enableWebSocket) := by
      intro _
      refine ⟨rfl, ?_⟩
      rintro id ⟨notificationType, has⟩
      cases has
    have kept : ∀ (h : Host) act, Inv h → Inv (h.step act) :=
      fun h act hb hu => (veiled_step hb act hu).1
    refine along_of_invariant kept ?_ start acts
    intro h act hb hu
    obtain ⟨hv, hh⟩ := veiled_step hb act hu
    exact ⟨hh, gated_of_unattached act hu, hv.sourced⟩
  · rw [r.map_id_clientList, r.appIds_snapshot, ha]
    rfl

/-- The loss does not end a `connectDevices` call under way. A WiFi runtime that has not closed its
socket yet stays in the ClientList, and messages still reach it. -/
theorem device_shown_after_loss :
    let phone : Device := ⟨"Android", some (.str "phone"), "serial", [], "127.0.0.1"⟩
    let app : Json := .obj [("type", .str "runtime")]
    let h := [.ownershipAttached true, .controlConnected true, .registerDevice phone,
      .startWSServer 1 1, .webSocketControllerCreated,
      .webSocketServerStarted ⟨19783, "127.0.0.1", none⟩,
      .webSocketOpened, .webSocketRegistered 1 app, .connectDevices 1 2 none,
      .physicalFound 1 2 fun _ => true, HostAct.ownershipLost].foldl step (initial true)
    h.registry.legacyOwnershipAttached = false ∧
      h.outputs (.physicalAnswered 1 2) = [.response 1 2 (.ok (.devices [phone]))] ∧
      (h.registry.clientList 2).map ClientListEntry.id = [1] ∧ h.registry.createSnapshot.appIds = [] ∧
      h.outputs (.sendMessageWithoutReply 1 3 false 1 (.bool true) false) =
        [.runtime 1 (.bool true), .response 1 3 (.ok .done)] := by
  refine ⟨by decide, rfl, by decide, by decide, ?_⟩
  rfl

end Host

end DebugRouter.Daemon
