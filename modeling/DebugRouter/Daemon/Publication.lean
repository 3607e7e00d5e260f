import DebugRouter.Daemon.Step

/-!
Publication of the Host's state. The last snapshot a control was sent shows the state as it is
after every act, with one exception: regained ownership brings devices and runtimes back into
view and tells nobody.
-/
namespace DebugRouter.Daemon

open Library OrderedMap Registry

namespace HostSnapshot

def SamePhysical (s s' : HostSnapshot) : Prop := s.serials = s'.serials ∧ s.clientIds = s'.clientIds

def SameWebSocket (s s' : HostSnapshot) : Prop := s.appIds = s'.appIds ∧ s.webIds = s'.webIds

end HostSnapshot

namespace Registry
variable {r r' : Registry}

def Shown (r : Registry) (P : Nat → HostSnapshot → Prop) : Prop :=
  ∀ id last, r.controls.get? id = some last → ∃ s, last = some s ∧ P id s

def PhysicallyCurrent (r : Registry) : Prop := r.Shown fun _ s => s.SamePhysical r.createSnapshot

/-- Every control has been sent a snapshot, and the last one shows what there is now. -/
def Current (r : Registry) : Prop := r.Shown fun id s => s.SamePhysical r.createSnapshot ∧
  (id ∈ r.webSocketRequesterControlIds → s.SameWebSocket r.createSnapshot)

/-- Before the server has started no snapshot lists a WebSocket client. -/
def Quiet (r : Registry) : Prop := r.webSocketServerStarted = false →
  ∀ id s, r.controls.get? id = some (some s) → s.appIds = [] ∧ s.webIds = []

theorem ids_not_started (h : r.webSocketServerStarted = false) :
    r.createSnapshot.appIds = [] ∧ r.createSnapshot.webIds = [] := by
  rw [appIds_snapshot, webIds_snapshot, (clients_not_started h).1, (clients_not_started h).2]
  exact ⟨ite_self [], rfl⟩

/- Sending a snapshot -/

theorem get?_sendSnapshot {ids : List Nat} {id : Nat} {last : Option HostSnapshot}
    (h : (r.sendSnapshot ids).1.controls.get? id = some last) :
    (id ∈ ids ∧ last = some r.createSnapshot) ∨ (id ∉ ids ∧ r.controls.get? id = some last) := by
  simp only [sendSnapshot, get?_mapEntries, Option.map_eq_some_iff] at h
  obtain ⟨old, hb, now⟩ := h
  split at now
  next ha => exact .inl ⟨ha, now.symm⟩
  next ho => exact .inr ⟨ho, now ▸ hb⟩

theorem current_sendSnapshot (ids : List Nat)
    (h : ∀ id last, r.controls.get? id = some last → id ∉ ids → ∃ s, last = some s ∧
      s.SamePhysical r.createSnapshot ∧
      (id ∈ r.webSocketRequesterControlIds → s.SameWebSocket r.createSnapshot)) :
    (r.sendSnapshot ids).1.Current := by
  intro id last hf
  rcases get?_sendSnapshot hf with ⟨-, rfl⟩ | ⟨ho, hb⟩
  · exact ⟨_, rfl, ⟨rfl, rfl⟩, fun _ => ⟨rfl, rfl⟩⟩
  · exact h id last hb ho

theorem current_sendSnapshot_of_current (h : r.Current) (ids : List Nat) :
    (r.sendSnapshot ids).1.Current :=
  current_sendSnapshot ids fun id last hf _ => h id last hf

theorem current_broadcastSnapshot (r : Registry) : r.broadcastSnapshot.1.Current := by
  refine current_sendSnapshot _ ?_
  intro id last hf hm
  exact absurd (mem_keys_iff.mpr ⟨last, hf⟩) hm

theorem current_sendToRequesters (h : r.PhysicallyCurrent) :
    (r.sendSnapshot r.webSocketRequesterControlIds).1.Current := by
  refine current_sendSnapshot _ ?_
  intro id last hf hm
  obtain ⟨s, hse, hs⟩ := h id last hf
  exact ⟨s, hse, hs, fun hr => absurd hr hm⟩

theorem quiet_sendSnapshot (h : r.Quiet) (ids : List Nat) : (r.sendSnapshot ids).1.Quiet := by
  intro hi id s hf
  rcases get?_sendSnapshot hf with ⟨-, now⟩ | ⟨-, hb⟩
  · cases now
    exact ids_not_started hi
  · exact h hi id s hb

structure Published (r : Registry) : Prop where
  current : r.Current
  quiet : r.Quiet

theorem published_broadcast (h : r.Quiet) : r.broadcastSnapshot.1.Published :=
  ⟨current_broadcastSnapshot r, quiet_sendSnapshot h _⟩

theorem published_sendSnapshot (h : r.Published) (ids : List Nat) :
    (r.sendSnapshot ids).1.Published :=
  ⟨current_sendSnapshot_of_current h.current ids, quiet_sendSnapshot h.quiet ids⟩

theorem Published.of_same (hpu : r.Published) (hc : r'.controls = r.controls)
    (hre : ∀ id ∈ r'.webSocketRequesterControlIds, id ∈ r.webSocketRequesterControlIds)
    (hp : r.createSnapshot.SamePhysical r'.createSnapshot)
    (hw : r.createSnapshot.SameWebSocket r'.createSnapshot)
    (hst : r'.webSocketServerStarted = false → r.webSocketServerStarted = false) :
    r'.Published := by
  constructor
  · intro id last hf
    rw [hc] at hf
    obtain ⟨s, hse, hs, hsh⟩ := hpu.current id last hf
    refine ⟨s, hse, ⟨hs.1.trans hp.1, hs.2.trans hp.2⟩, ?_⟩
    intro hr
    have old := hsh (hre id hr)
    exact ⟨old.1.trans hw.1, old.2.trans hw.2⟩
  · intro hi id s hf
    rw [hc] at hf
    exact hpu.quiet (hst hi) id s hf

structure PhysicalChange (r r' : Registry) : Prop where
  ownership : r'.ownership = r.ownership
  server : r'.server = r.server
  controls : r'.controls = r.controls
  requesters : r'.webSocketRequesterControlIds = r.webSocketRequesterControlIds

theorem PhysicalChange.quiet (change : PhysicalChange r r') (hq : r.Quiet) : r'.Quiet := by
  unfold Quiet webSocketServerStarted at *
  rw [change.server, change.controls]
  exact hq

theorem PhysicalChange.published (change : PhysicalChange r r') (hp : r.Published)
    (hh : r'.legacyOwnershipAttached = false) : r'.Published := by
  have hb : r.legacyOwnershipAttached = false := by
    unfold legacyOwnershipAttached at *
    rw [← change.ownership]
    exact hh
  refine hp.of_same change.controls ?_ ?_ ?_ ?_
  · rw [change.requesters]
    exact fun _ hi => hi
  · simp [HostSnapshot.SamePhysical, HostSnapshot.serials, HostSnapshot.clientIds, createSnapshot,
      hh, hb]
  · simp [HostSnapshot.SameWebSocket, HostSnapshot.appIds, HostSnapshot.webIds, createSnapshot,
      webSocketController, hh, hb, change.server]
  · unfold webSocketServerStarted
    rw [change.server]
    exact id

end Registry

/- The physical layer and ownership -/

namespace Host
variable {h : Host}

open Registry

theorem published_refresh {f : Registry → Registry} {tell : Host → Host × List Output}
    (hp : h.registry.Published) (change : PhysicalChange h.registry (f h.registry))
    (ht : ∀ h' : Host, h'.registry.Quiet → (tell h').1.registry.Published) :
    (seq (h.setRegistry f) fun h =>
      if h.registry.legacyOwnershipAttached then tell h else h.still).1.registry.Published := by
  dsimp only [seq]
  split
  · exact ht _ (change.quiet hp.quiet)
  next hh => exact change.published hp (eq_false_of_ne_true hh)

theorem published_registerDevice (hp : h.registry.Published) (dv : Device) :
    (h.registerDevice dv).1.registry.Published := by
  unfold registerDevice
  split
  · exact hp
  · exact published_refresh hp ⟨rfl, rfl, rfl, rfl⟩ fun _ hq => published_broadcast hq

theorem published_unregisterUsb (hp : h.registry.Published) (id : Int) :
    (h.unregisterUsbClient id).1.registry.Published := by
  unfold unregisterUsbClient handleClientDisconnected
  split
  · exact published_refresh hp ⟨rfl, rfl, rfl, rfl⟩ fun _ hq => published_broadcast hq
  · exact hp

variable (ids : List Int)

theorem published_unregisterUsbs (hp : h.registry.Published) :
    (unregisterUsbClients ids h).1.registry.Published := by
  induction ids generalizing h with
  | nil => exact hp
  | cons id xs ih => exact ih (published_unregisterUsb hp id)

theorem frame_unregisterUsb (h : Host) (id : Int) :
    (h.registry.Quiet → (h.unregisterUsbClient id).1.registry.Quiet) ∧
      (h.unregisterUsbClient id).1.registry.ownership = h.registry.ownership := by
  unfold unregisterUsbClient handleClientDisconnected
  split
  · dsimp only [seq]
    split
    · refine ⟨fun hq => ?_, rfl⟩
      apply quiet_sendSnapshot
      exact hq
    · exact ⟨fun hq => hq, rfl⟩
  · exact ⟨fun hq => hq, rfl⟩

theorem frame_unregisterUsbs (h : Host) :
    (h.registry.Quiet → (unregisterUsbClients ids h).1.registry.Quiet) ∧
      (unregisterUsbClients ids h).1.registry.ownership = h.registry.ownership := by
  induction ids generalizing h with
  | nil => exact ⟨id, rfl⟩
  | cons id xs ih =>
    have hh := frame_unregisterUsb h id
    have ht := ih (h.unregisterUsbClient id).1
    exact ⟨fun hq => ht.1 (hh.1 hq), ht.2.trans hh.2⟩

theorem published_unregisterDevice (hp : h.registry.Published) (sn : String)
    (closed : List Int) : (h.unregisterDevice sn closed).1.registry.Published := by
  unfold unregisterDevice
  split
  · generalize hd : h.setRegistry _ = x
    have change : PhysicalChange h.registry x.1.registry := by
      subst hd
      exact ⟨rfl, rfl, rfl, rfl⟩
    have frame := frame_unregisterUsbs closed x.1
    dsimp only [seq]
    split
    · exact published_broadcast (frame.1 (change.quiet hp.quiet))
    next hh =>
      have hu : x.1.registry.legacyOwnershipAttached = false := by
        unfold legacyOwnershipAttached at *
        rw [← frame.2]
        exact eq_false_of_ne_true hh
      exact published_unregisterUsbs closed (change.published hp hu)
  · exact hp

variable {r r' : Registry}

theorem published_createId (h : r.Published) : r.createClientId.1.Published := by
  unfold createClientId
  split
  · exact h
  · exact ⟨h.current, h.quiet⟩

theorem published_registerUsb (hp : h.registry.Published) (port : UInt16)
    (q : ClientQuery) : (h.registerUsbClient port q).1.registry.Published := by
  unfold registerUsbClient
  dsimp only
  split
  · exact published_createId hp
  · refine published_refresh hp ?_ fun _ hq => published_broadcast hq
    unfold createClientId
    split <;> exact ⟨rfl, rfl, rfl, rfl⟩

theorem published_ownershipLost (hp : h.registry.Published) :
    h.ownershipLost.1.registry.Published := by
  unfold ownershipLost
  split
  · apply published_broadcast
    exact hp.quiet
  · exact hp

/- Controls -/

theorem published_controlConnected (hp : h.registry.Published) (ws : Bool) :
    (h.controlConnected ws).1.registry.Published := by
  -- the newcomer gets a snapshot, the others keep theirs
  have hw : ({ h.registry with
      controls := h.registry.controls.set h.registry.nextControlId none
      nextControlId := h.registry.nextControlId + 1 }.sendSnapshot
        [h.registry.nextControlId]).1.Published := by
    constructor
    · refine current_sendSnapshot _ ?_
      intro id last hf hm
      have other : id ≠ h.registry.nextControlId := by simpa using hm
      rw [get?_set, if_neg other] at hf
      exact hp.current id last hf
    · apply quiet_sendSnapshot
      intro hi id s hf
      rw [get?_set] at hf
      split at hf
      · cases hf
      · exact hp.quiet hi id s hf
  exact ⟨hw.current, hw.quiet⟩

theorem published_controlDisconnected (hp : h.registry.Published) (id : Nat) :
    (h.controlDisconnected id).1.registry.Published := by
  constructor
  · intro o last hf
    obtain ⟨s, hse, hs, hsh⟩ := hp.current o last (get?_of_delete hf)
    exact ⟨s, hse, hs, fun hr => hsh (List.mem_of_mem_filter hr)⟩
  · intro hi o s hf
    exact hp.quiet hi o s (get?_of_delete hf)

theorem published_physicalAnswered (hp : h.registry.Published) (ctrl rpc : Nat) :
    (h.physicalAnswered ctrl rpc).1.registry.Published := by
  unfold physicalAnswered
  split
  · exact ⟨hp.current, hp.quiet⟩
  · apply published_broadcast
    exact hp.quiet
  · exact hp

/- The WebSocket server -/

theorem published_of_idle (hp : r.Published)
    (hi : r.webSocketServerStarted = false) (hc : r'.controls = r.controls)
    (hph : r.createSnapshot.SamePhysical r'.createSnapshot)
    (he : r'.appClients = .empty ∧ r'.webClients = .empty) : r'.Published := by
  constructor
  · intro id last hf
    rw [hc] at hf
    obtain ⟨s, hse, hs, -⟩ := hp.current id last hf
    have none := hp.quiet hi id s (hse ▸ hf)
    refine ⟨s, hse, ⟨hs.1.trans hph.1, hs.2.trans hph.2⟩, fun _ => ?_⟩
    unfold HostSnapshot.SameWebSocket
    rw [none.1, none.2, appIds_snapshot, webIds_snapshot, he.1, he.2]
    exact ⟨(ite_self []).symm, rfl⟩
  · intro _ id s hf
    rw [hc] at hf
    exact hp.quiet hi id s hf

theorem published_of_starting {waiting : List (Nat × Nat)} {created : Bool}
    (hpu : r.Published) (hs : r.server = .starting waiting created)
    (hc : r'.controls = r.controls) (hp : r.createSnapshot.SamePhysical r'.createSnapshot)
    (hi : r'.webSocketServerStarted = false) : r'.Published := by
  have before : r.webSocketServerStarted = false := by simp [Registry.webSocketServerStarted, hs]
  exact published_of_idle hpu before hc hp (clients_not_started hi)

theorem addRequester_frame (r : Registry) (ctrl : Nat) :
    (addRequester r ctrl).controls = r.controls ∧ (addRequester r ctrl).server = r.server ∧
      (addRequester r ctrl).createSnapshot = r.createSnapshot ∧
      ∀ id ∈ (addRequester r ctrl).webSocketRequesterControlIds, id ≠ ctrl →
        id ∈ r.webSocketRequesterControlIds := by
  unfold addRequester
  split
  · exact ⟨rfl, rfl, rfl, fun _ hi _ => hi⟩
  · refine ⟨rfl, rfl, rfl, ?_⟩
    intro id hi ho
    simpa [ho] using hi

theorem published_startWSServer (hpu : h.registry.Published) (controlId rpcId : Nat) :
    (h.startWSServer controlId rpcId).1.registry.Published := by
  unfold startWSServer
  split
  · obtain ⟨hc, hs, hsh, hr⟩ := addRequester_frame h.registry controlId
    dsimp only [seq, setRegistry]
    generalize addRequester h.registry controlId = r at hc hs hsh hr ⊢
    have hp : h.registry.createSnapshot.SamePhysical r.createSnapshot := hsh ▸ ⟨rfl, rfl⟩
    cases hse : r.server with
    | started i ctl unregistered =>
      constructor
      · refine current_sendSnapshot _ ?_
        intro id last hf hm
        rw [hc] at hf
        obtain ⟨s, sent, hcu, hw⟩ := hpu.current id last hf
        have other : id ≠ controlId := by simpa using hm
        rw [hsh]
        exact ⟨s, sent, hcu, fun hre => hw (hr id hre other)⟩
      · apply quiet_sendSnapshot
        intro hi
        simp [Registry.webSocketServerStarted, hse] at hi
    | starting waiting created | stopped =>
      have hi : h.registry.webSocketServerStarted = false := by
        simp [Registry.webSocketServerStarted, ← hs, hse]
      exact published_of_idle hpu hi hc hp (clients_not_started rfl)
  · exact hpu

theorem published_answerStarted (i : WebSocketServerInfo) (waiting : List (Nat × Nat))
    (hp : h.registry.Published) : (answerStarted i waiting h).1.registry.Published := by
  induction waiting generalizing h with
  | nil => exact hp
  | cons c xs ih => exact ih (published_sendSnapshot hp _)

theorem published_serverStarted (hp : h.registry.Published)
    (i : WebSocketServerInfo) : (h.webSocketServerStarted i).1.registry.Published := by
  unfold Host.webSocketServerStarted
  split
  next hs =>
    apply published_answerStarted
    exact published_of_idle hp (by simp [Registry.webSocketServerStarted, hs]) rfl ⟨rfl, rfl⟩
      ⟨rfl, rfl⟩
  · exact hp

theorem published_wsOpened (hp : h.registry.Published) :
    h.webSocketOpened.1.registry.Published := by
  unfold webSocketOpened
  split
  next info controller unreg hse =>
    have hc := published_createId hp
    have hk : h.registry.createClientId.1.server = h.registry.server := by
      unfold createClientId
      split <;> rfl
    refine hc.of_same rfl (fun _ hin => hin) ⟨rfl, rfl⟩ ?_ ?_
    · have hs : h.registry.createClientId.1.webSocketController = some controller := by
        simp [webSocketController, hk, hse]
      unfold HostSnapshot.SameWebSocket HostSnapshot.appIds HostSnapshot.webIds createSnapshot
      rw [hs]
      exact ⟨rfl, rfl⟩
    · intro hi
      cases hi
  · exact hp

theorem published_toRequesters (hpu : r.Published) (hc : r'.controls = r.controls)
    (hp : r.createSnapshot.SamePhysical r'.createSnapshot) (hq : r'.Quiet) :
    (r'.sendSnapshot r'.webSocketRequesterControlIds).1.Published := by
  refine ⟨current_sendToRequesters ?_, quiet_sendSnapshot hq _⟩
  intro id last hf
  rw [hc] at hf
  obtain ⟨s, hse, hs, -⟩ := hpu.current id last hf
  exact ⟨s, hse, hs.1.trans hp.1, hs.2.trans hp.2⟩

theorem published_wsRegistered (hp : h.registry.Published)
    (i : WebSocketClientInfo) : (h.webSocketRegistered i).1.registry.Published := by
  unfold webSocketRegistered
  split
  · split
    · refine published_toRequesters hp ?_ ?_ ?_
      · rfl
      · exact ⟨rfl, rfl⟩
      · intro hi
        cases hi
    · exact hp
  · exact hp

theorem published_update (hp : h.registry.Published)
    (f : WebSocketController → WebSocketController) :
    ((updateController f h.registry).sendSnapshot
      (updateController f h.registry).webSocketRequesterControlIds).1.Published := by
  unfold updateController
  split
  · refine published_toRequesters hp ?_ ?_ ?_
    · rfl
    · exact ⟨rfl, rfl⟩
    · intro hi
      cases hi
  · exact published_sendSnapshot hp _

theorem published_wsClosed (hp : h.registry.Published) (id : Int) :
    (h.webSocketClosed id).1.registry.Published := by
  have hr : (h.removeAppClient id).1.registry.Published := by
    unfold removeAppClient
    split
    · exact published_update hp _
    · exact hp
  unfold webSocketClosed
  generalize (h.removeAppClient id) = x at hr ⊢
  have hc : (x.1.removeWebClient id).1.registry.Published := by
    unfold removeWebClient
    split
    · exact published_update hr _
    · exact hr
  exact hc

theorem registry_wsMessage (id : Int) (msg : String) (fails : Bool) :
    (h.webSocketMessage id msg fails).1.registry = h.registry := by
  unfold webSocketMessage
  split
  · unfold handleMessage
    split
    · rfl
    · dsimp only [seq]
      split
      · rfl
      split
      · rfl
      split
      · unfold handleCustomizedMessage
        dsimp only
        repeat' split
        all_goals rfl
      · rfl
  · rfl

/- Every act -/

/-- Ownership is regained while there is nothing that it brings back into a control's view. -/
def Publishes (h : Host) : HostAct → Prop
  | .ownershipAttached _ => h.registry.legacyOwnershipAttached = false →
    ∀ id, h.registry.controls.has id →
      h.registry.devices.keys = [] ∧ h.registry.usbClients.keys = [] ∧
        (id ∈ h.registry.webSocketRequesterControlIds → h.registry.appClients.keys = [])
  | _ => True

theorem published_attached (hp : h.registry.Published)
    (ha : h.registry.legacyOwnershipAttached = true) (ann : Bool) :
    (h.ownershipAttached ann).1.registry.Published := by
  have same : (h.ownershipAttached ann).1.registry = h.registry := by
    obtain ⟨r, t⟩ := h
    cases r
    simp only [legacyOwnershipAttached, decide_eq_true_eq] at ha
    subst ha
    rfl
  rw [same]
  exact hp

theorem current_regained_iff (hp : h.registry.Published)
    (hh : h.registry.legacyOwnershipAttached = false) (ann : Bool) :
    (h.ownershipAttached ann).1.registry.Current ↔ h.Publishes (.ownershipAttached ann) := by
  have hb : h.registry.createSnapshot.serials = [] ∧ h.registry.createSnapshot.clientIds = [] ∧
      h.registry.createSnapshot.appIds = [] := by
    rw [serials_snapshot, clientIds_snapshot, appIds_snapshot, hh]
    exact ⟨rfl, rfl, rfl⟩
  obtain ⟨r, hsa, hco, hre, hhs, hc, ha, hwe⟩ :
      ∃ r, (h.ownershipAttached ann).1.registry = r ∧ r.controls = h.registry.controls ∧
        r.webSocketRequesterControlIds = h.registry.webSocketRequesterControlIds ∧
        r.createSnapshot.serials = h.registry.devices.keys ∧
        r.createSnapshot.clientIds = h.registry.usbClients.keys ∧
        r.createSnapshot.appIds = h.registry.appClients.keys ∧
        r.createSnapshot.webIds = h.registry.createSnapshot.webIds :=
    ⟨_, rfl, rfl, rfl, serials_snapshot _, clientIds_snapshot _, appIds_snapshot _, rfl⟩
  rw [hsa]
  constructor
  · intro hcu _ id has
    obtain ⟨last, hf⟩ := has_iff.mp has
    obtain ⟨s, rfl, old, hs⟩ := hp.current id last hf
    obtain ⟨s', hse, new, hw⟩ := hcu id _ (hco ▸ hf)
    cases hse
    refine ⟨?_, ?_, ?_⟩
    · rw [← hhs, ← new.1, old.1, hb.1]
    · rw [← hc, ← new.2, old.2, hb.2.1]
    · intro hr
      have fresh := hw (hre ▸ hr)
      rw [← ha, ← fresh.1, (hs hr).1, hb.2.2]
  · intro nothing id last hf
    rw [hco] at hf
    obtain ⟨s, hse, old, hw⟩ := hp.current id last hf
    obtain ⟨hd, hcl, hap⟩ := nothing hh id (has_iff.mpr ⟨last, hf⟩)
    refine ⟨s, hse, ⟨?_, ?_⟩, ?_⟩
    · rw [hhs, hd, old.1, hb.1]
    · rw [hc, hcl, old.2, hb.2.1]
    · intro hr
      rw [hre] at hr
      have hs := hw hr
      refine ⟨?_, ?_⟩
      · rw [ha, hap hr, hs.1, hb.2.2]
      · rw [hwe, hs.2]

theorem published_fromControl {ctrl : Nat} {handled : Host × List Output}
    (hp : h.registry.Published) (ha : handled.1.registry.Published) :
    (h.fromControl ctrl handled).1.registry.Published := by
  unfold fromControl
  split
  · exact ha
  · exact hp

theorem published_forceDisable (hp : h.registry.Published) (ctrl rpc : Nat)
    (closed : List Int) : (h.forceDisableAllClients ctrl rpc closed).1.registry.Published := by
  apply published_broadcast
  exact (frame_unregisterUsbs closed h).1 hp.quiet

theorem published_step (hp : h.registry.Published) (act : HostAct)
    (ho : ∀ ann, act ≠ .ownershipAttached ann) : (h.step act).registry.Published := by
  cases act with
  | registerDevice dv => exact published_registerDevice hp dv
  | unregisterDevice sn closed => exact published_unregisterDevice hp sn closed
  | registerUsbClient port dv i => exact published_registerUsb hp port _
  | unregisterUsbClient id => exact published_unregisterUsb hp id
  | usbClientMessage id msg =>
    simp only [step, respond, handleUsbClientMessage]
    split <;> exact hp
  | ownershipAttached ann => exact absurd rfl (ho ann)
  | ownershipLost => exact published_ownershipLost hp
  | controlConnected ws => exact published_controlConnected hp ws
  | controlDisconnected ctrl => exact published_controlDisconnected hp ctrl
  | connectDevices ctrl rpc sn => exact published_fromControl hp ⟨hp.current, hp.quiet⟩
  | connectUsbClients ctrl rpc dev =>
    apply published_fromControl hp
    unfold connectUsbClients
    split
    · split
      · exact ⟨hp.current, hp.quiet⟩
      · exact hp
    · exact hp
  | physicalFound ctrl rpc selected =>
    simp only [step, respond, physicalFound]
    split
    · exact ⟨hp.current, hp.quiet⟩
    · exact hp
  | physicalAnswered ctrl rpc => exact published_physicalAnswered hp ctrl rpc
  | physicalFailed ctrl rpc msg =>
    simp only [step, respond, physicalFailed]
    split
    · exact ⟨hp.current, hp.quiet⟩
    · exact hp
  | watchersStarted ctrl rpc => exact published_broadcast hp.quiet
  | forceDisableAllClients ctrl rpc closed =>
    exact published_forceDisable hp ctrl rpc closed
  | startWSServer ctrl rpc => exact published_fromControl hp (published_startWSServer hp ctrl rpc)
  | webSocketControllerCreated =>
    simp only [step, respond, webSocketControllerCreated]
    split
    next hs => exact published_of_starting hp hs rfl ⟨rfl, rfl⟩ rfl
    · exact hp
  | webSocketServerStarted i => exact published_serverStarted hp i
  | webSocketStartFailed =>
    simp only [step, respond, webSocketStartFailed]
    split
    next hs => exact published_of_starting hp hs rfl ⟨rfl, rfl⟩ rfl
    · exact hp
  | webSocketStartRejected msg =>
    simp only [step, respond, webSocketStartRejected]
    split
    next hs => exact published_of_starting hp hs rfl ⟨rfl, rfl⟩ rfl
    · exact hp
  | webSocketOpened => exact published_wsOpened hp
  | webSocketRegistered id d => exact published_wsRegistered hp _
  | webSocketClosed id => exact published_wsClosed hp id
  | webSocketMessage id msg fails =>
    have same : (h.step (.webSocketMessage id msg fails)).registry = h.registry :=
      registry_wsMessage id msg fails
    rw [same]
    exact hp
  | sendMessageWithReply ctrl rpc cid msg fails => exact published_fromControl hp hp
  | sendMessageWithoutReply ctrl rpc toWeb cid msg fails =>
    exact published_fromControl hp hp
  | routeTimeout gid | memoRetry cid ty retried | tick el => exact hp

theorem current_step_iff (hp : h.registry.Published) (act : HostAct) :
    (h.step act).registry.Current ↔ h.Publishes act := by
  by_cases hr : ∃ announced, act = .ownershipAttached announced
  · obtain ⟨announced, rfl⟩ := hr
    cases ha : h.registry.legacyOwnershipAttached with
    | false => exact current_regained_iff hp ha announced
    | true =>
      have same := (published_attached hp ha announced).current
      refine iff_of_true same ?_
      intro hh
      rw [ha] at hh
      cases hh
  · have other : ∀ announced, act ≠ .ownershipAttached announced := by simpa using hr
    refine iff_of_true (published_step hp act other).current ?_
    cases act with
    | ownershipAttached announced => exact absurd rfl (other announced)
    | _ => trivial

theorem quiet_step (hp : h.registry.Published) (act : HostAct) : (h.step act).registry.Quiet := by
  by_cases hr : ∃ ann, act = .ownershipAttached ann
  · obtain ⟨ann, rfl⟩ := hr
    exact hp.quiet
  · exact (published_step hp act (by simpa using hr)).quiet

/-- A run keeps every control up to date exactly when ownership is regained only while there is
nothing to bring back into view. -/
theorem current_iff_publishes (enableWebSocket : Bool) (acts : List HostAct) :
    Throughout step (fun h => h.registry.Current) (initial enableWebSocket) acts ↔
      Along step Publishes (initial enableWebSocket) acts := by
  have quietly : ∀ (h : Host) act, h.registry.Quiet → h.registry.Current →
      (h.step act).registry.Quiet :=
    fun h act hq hc => quiet_step ⟨hc, hq⟩ act
  apply throughout_iff_along quietly
  · intro h act hq hc
    exact current_step_iff ⟨hc, hq⟩ act
  · exact nofun
  · exact nofun

theorem regained_device_not_published : ¬([.ownershipAttached true, .controlConnected false,
      .registerDevice ⟨"Android", some (.str "phone"), "serial", [], "127.0.0.1"⟩,
      .ownershipLost, HostAct.ownershipAttached true].foldl step
        (initial false)).registry.Current := by
  intro hc
  obtain ⟨s, hs, hp, -⟩ := hc 1 (some ⟨[], [], none, none⟩) rfl
  cases hs
  exact absurd hp.1 (by decide)

end Host

end DebugRouter.Daemon
