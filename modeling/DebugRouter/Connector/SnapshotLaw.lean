import DebugRouter.Connector.MirrorPhases

/-!
What one application of a snapshot does to the mirrors: which entries are there
afterwards, which proxies survive, and in which order the events come.
-/
namespace DebugRouter.Connector
open Library Protocol List OrderedMap

namespace Mirror

def EnabledSerial (m : Mirror) (snapshot : Snapshot) (serial : String) : Prop :=
  ∃ d ∈ snapshot.devices, m.isDeviceSnapshotEnabled d = true ∧ d.serial = serial

def SelectedClient (m : Mirror) (snapshot : Snapshot) (id : JsNumber) : Prop :=
  ∃ c ∈ snapshot.clients, c.id = id ∧ m.EnabledSerial snapshot c.query.deviceId

section Application
variable (m : Mirror) (snapshot : Snapshot)

def activeSerials : List String :=
  (snapshot.devices.filter m.isDeviceSnapshotEnabled).map DeviceSnapshot.serial

def afterDevices : Mirror :=
  m.upsertDeviceSnapshots (snapshot.devices.filter m.isDeviceSnapshotEnabled)

def afterClients : Mirror := (m.afterDevices snapshot).syncClientSnapshots snapshot.clients

def afterApps : Mirror := (m.afterClients snapshot).syncExposed snapshot.websocketAppClients .app

def afterWebs : Mirror := (m.afterApps snapshot).syncExposed snapshot.websocketWebClients .web

theorem apply_eq :
    m.applySnapshot snapshot = (m.afterWebs snapshot).removeStaleDevices (m.activeSerials snapshot) :=
  rfl

variable (serial : String) (target : WebSocketTarget)

theorem mem_activeSerials : serial ∈ m.activeSerials snapshot ↔ m.EnabledSerial snapshot serial := by
  simp [activeSerials, EnabledSerial, and_assoc]

theorem afterDevices_has : (m.afterDevices snapshot).devices.has serial = true ↔
      m.devices.has serial = true ∨ m.EnabledSerial snapshot serial := by
  unfold afterDevices EnabledSerial
  rw [upsertDevices_has]
  simp only [mem_filter, and_assoc, and_self_left]

theorem afterDevices_frame : (m.afterDevices snapshot).besidesDevices = m.besidesDevices :=
  m.upsertDevices_frame _

theorem afterClients_frame :
    (m.afterClients snapshot).besidesClients = (m.afterDevices snapshot).besidesClients :=
  (m.afterDevices snapshot).syncClients_frame _

theorem afterApps_frame :
    (m.afterApps snapshot).besidesWebSockets .app =
      (m.afterClients snapshot).besidesWebSockets .app :=
  (m.afterClients snapshot).syncExposed_frame .app _

theorem afterWebs_frame :
    (m.afterWebs snapshot).besidesWebSockets .web = (m.afterApps snapshot).besidesWebSockets .web :=
  (m.afterApps snapshot).syncExposed_frame .web _

theorem apply_frame :
    (m.applySnapshot snapshot).besidesDevices = (m.afterWebs snapshot).besidesDevices :=
  (m.afterWebs snapshot).staleDevices_frame _

theorem afterWebs_devices : (m.afterWebs snapshot).devices = (m.afterDevices snapshot).devices := by
  have web := congrArg (fun p => p.2.1) (m.afterWebs_frame snapshot)
  have app := congrArg (fun p => p.2.1) (m.afterApps_frame snapshot)
  have hc := congrArg (fun p => p.2.1) (m.afterClients_frame snapshot)
  exact web.trans (app.trans hc)

theorem apply_usbClients :
    (m.applySnapshot snapshot).usbClients = (m.afterClients snapshot).usbClients := by
  have hl := congrArg (fun p => p.2.1) (m.apply_frame snapshot)
  have web := congrArg (fun p => p.2.2.1) (m.afterWebs_frame snapshot)
  have app := congrArg (fun p => p.2.2.1) (m.afterApps_frame snapshot)
  exact hl.trans (web.trans app)

theorem apply_settings : (m.applySnapshot snapshot).settings = m.settings := by
  have hl := congrArg (fun p => p.1) (m.apply_frame snapshot)
  have web := congrArg (fun p => p.1) (m.afterWebs_frame snapshot)
  have app := congrArg (fun p => p.1) (m.afterApps_frame snapshot)
  have hc := congrArg (fun p => p.1) (m.afterClients_frame snapshot)
  have hd := congrArg (fun p => p.1) (m.afterDevices_frame snapshot)
  exact hl.trans (web.trans (app.trans (hc.trans hd)))

theorem apply_devices_has :
    (m.applySnapshot snapshot).devices.has serial = true ↔ m.EnabledSerial snapshot serial := by
  rw [apply_eq, staleDevices_has, afterWebs_devices, afterDevices_has, mem_activeSerials]
  tauto

/-- The mirrored clients are those on an enabled device or on a device mirrored before. -/
theorem apply_clients_has (id : JsNumber) : (m.applySnapshot snapshot).usbClients.has id = true ↔
      ∃ c ∈ snapshot.clients, (m.devices.has c.query.deviceId = true ∨
        m.EnabledSerial snapshot c.query.deviceId) ∧ c.id = id := by
  rw [apply_usbClients, afterClients, syncClients_has]
  simp only [afterDevices_has]

theorem apply_websockets (sent : Option (List WebSocketClientSnapshot)) (h : sent = match target with
      | .app => snapshot.websocketAppClients
      | .web => snapshot.websocketWebClients) :
    ∃ before : Mirror, before.settings = m.settings ∧
    before.websocketClients target = m.websocketClients target ∧
      (m.applySnapshot snapshot).websocketClients target =
        (before.syncExposed sent target).websocketClients target := by
  have hd := m.afterDevices_frame snapshot
  have hc := m.afterClients_frame snapshot
  have app := m.afterApps_frame snapshot
  have web := m.afterWebs_frame snapshot
  have hl := m.apply_frame snapshot
  subst h
  cases target with
  | app =>
    refine ⟨m.afterClients snapshot, ?_, ?_, ?_⟩
    · exact (congrArg (fun p => p.1) hc).trans (congrArg (fun p => p.1) hd)
    · exact (congrArg (fun p => p.2.2.1) hc).trans (congrArg (fun p => p.2.2.1) hd)
    · exact (congrArg (fun p => p.2.2.1) hl).trans (congrArg (fun p => p.2.2.2) web)
  | web =>
    refine ⟨m.afterApps snapshot, ?_, ?_, ?_⟩
    · exact (congrArg (fun p => p.1) app).trans
        ((congrArg (fun p => p.1) hc).trans (congrArg (fun p => p.1) hd))
    · exact (congrArg (fun p => p.2.2.2) app).trans
        ((congrArg (fun p => p.2.2.2) hc).trans (congrArg (fun p => p.2.2.2) hd))
    · exact congrArg (fun p => p.2.2.2) hl

/- Proxies -/

theorem apply_sameDevice {k : String} {p q : Proxy DeviceSnapshot} (hb : m.devices.get? k = some p)
    (ha : (m.applySnapshot snapshot).devices.get? k = some q) : q = p := by
  have hl := (m.afterWebs snapshot).staleDevices_shrinks _ ha
  rw [afterWebs_devices] at hl
  have hk := m.upsertDevices_keeps (snapshot.devices.filter m.isDeviceSnapshotEnabled) hb
  exact Option.some.inj (hl.symm.trans hk)

theorem apply_sameClient {k : JsNumber} {p q : Proxy ClientSnapshot}
    (hb : m.usbClients.get? k = some p)
    (ha : (m.applySnapshot snapshot).usbClients.get? k = some q) : q = p := by
  have hu : (m.afterDevices snapshot).usbClients = m.usbClients :=
    congrArg (fun p => p.2.1) (m.afterDevices_frame snapshot)
  rw [apply_usbClients] at ha
  exact (m.afterDevices snapshot).syncClients_same _ (hu ▸ hb) ha

theorem apply_sameWebSocket {k : JsNumber}
    {p q : Proxy WebSocketClientSnapshot} (hb : (m.websocketClients target).get? k = some p)
    (ha : ((m.applySnapshot snapshot).websocketClients target).get? k = some q) : q = p := by
  obtain ⟨start, -, hu, hr⟩ := m.apply_websockets snapshot target _ rfl
  rw [hr] at ha
  exact start.syncExposed_same target _ (hu ▸ hb) ha

/- Events -/

theorem apply_phases :
    ∃ entered connected left sockets gone : List Event,
      (m.applySnapshot snapshot).events =
        m.events ++ (entered ++ (connected ++ (left ++ (sockets ++ gone)))) ∧
      (∀ e ∈ entered, e.entersDevice) ∧ (∀ e ∈ connected, e.entersClient) ∧
      (∀ e ∈ left, e.leavesClient) ∧ (∀ e ∈ sockets, e.ofWebSocket) ∧
      (∀ e ∈ gone, e.leavesDevice) := by
  obtain ⟨entered, hg, hk, -⟩ := m.upsertDevices_tells
    (snapshot.devices.filter m.isDeviceSnapshotEnabled)
  obtain ⟨connected, hgr, hki, -⟩ := (m.afterDevices snapshot).upsertClients_tells
    ((m.afterDevices snapshot).filterClientSnapshots snapshot.clients)
  obtain ⟨left, hh, hhk, -⟩ := ((m.afterDevices snapshot).upsertClientSnapshots
    ((m.afterDevices snapshot).filterClientSnapshots snapshot.clients)).dropInactive_tells
    (((m.afterDevices snapshot).filterClientSnapshots snapshot.clients).map ClientSnapshot.id)
  obtain ⟨apps, grow₄, kind₄, -⟩ := (m.afterClients snapshot).syncExposed_tells .app
    snapshot.websocketAppClients
  obtain ⟨webs, grow₅, kind₅, -⟩ := (m.afterApps snapshot).syncExposed_tells .web
    snapshot.websocketWebClients
  obtain ⟨gone, grow₆, kind₆, -⟩ := (m.afterWebs snapshot).staleDevices_tells
    (m.activeSerials snapshot)
  refine ⟨entered, connected, left, apps ++ webs, gone, ?_, hk, hki, hhk, ?_, kind₆⟩
  · rw [apply_eq, grow₆, afterWebs, grow₅, afterApps, grow₄, afterClients,
      syncClients_eq, hh, hgr, afterDevices, hg]
    simp
  · intro e mem
    rcases mem_append.mp mem with mem | mem
    · exact kind₄ e mem
    · exact kind₅ e mem

theorem apply_tells : Tells (fun _ => True) m (m.applySnapshot snapshot) := by
  have any : ∀ {allowed : Event → Prop} {m n : Mirror}, Tells allowed m n →
      Tells (fun _ => True) m n := announces_mono (fun _ _ => trivial)
  have hd : Tells (fun _ => True) m (m.afterDevices snapshot) := any (m.upsertDevices_tells _)
  have hc : Tells (fun _ => True) (m.afterDevices snapshot) (m.afterClients snapshot) :=
    announces_trans (any ((m.afterDevices snapshot).upsertClients_tells
      ((m.afterDevices snapshot).filterClientSnapshots snapshot.clients)))
      (any (dropInactive_tells _ _))
  have ha : Tells (fun _ => True) (m.afterClients snapshot) (m.afterApps snapshot) :=
    any ((m.afterClients snapshot).syncExposed_tells .app _)
  have hw : Tells (fun _ => True) (m.afterApps snapshot) (m.afterWebs snapshot) :=
    any ((m.afterApps snapshot).syncExposed_tells .web _)
  have hg : Tells (fun _ => True) (m.afterWebs snapshot) (m.applySnapshot snapshot) :=
    any ((m.afterWebs snapshot).staleDevices_tells _)
  exact announces_trans hd (announces_trans hc (announces_trans ha (announces_trans hw hg)))

/- A second application -/

structure Settled : Prop where
  devices : ∀ serial, m.devices.has serial = true ↔ m.EnabledSerial snapshot serial
  clients : ∀ id, m.usbClients.has id = true ↔
    ∃ c ∈ snapshot.clients, m.devices.has c.query.deviceId = true ∧ c.id = id
  apps : ∀ sent, snapshot.websocketAppClients = some sent → m.shouldExposeWebSocketState = true →
    ∀ id, m.websocketAppClients.has id = true ↔ ∃ c ∈ sent, c.id = id
  webs : ∀ sent, snapshot.websocketWebClients = some sent → m.shouldExposeWebSocketState = true →
    ∀ id, m.websocketWebClients.has id = true ↔ ∃ c ∈ sent, c.id = id

theorem upsertDevices_settled {snaps : List DeviceSnapshot}
    (h : ∀ d ∈ snaps, m.isDeviceSnapshotEnabled d = true → m.devices.has d.serial = true) :
    m.upsertDeviceSnapshots snaps = m := by
  refine foldl_fixed ?_
  intro d mem
  obtain ⟨hl, he⟩ := mem_filter.mp mem
  rcases m.upsertDevice_cases d with ⟨-, hs⟩ | ⟨ha, -⟩
  · exact hs
  · rw [h d hl he] at ha
    cases ha

theorem staleDevices_settled {active : List String}
    (all : ∀ serial, m.devices.has serial = true → serial ∈ active) :
    m.removeStaleDevices active = m := by
  refine foldl_fixed ?_
  intro serial mem
  exact if_pos (all serial (mem_keys_iff_has.mp mem))

theorem syncClients_settled {snaps : List ClientSnapshot}
    (h : ∀ id, m.usbClients.has id = true ↔
      ∃ c ∈ snaps, m.devices.has c.query.deviceId = true ∧ c.id = id) :
    m.syncClientSnapshots snaps = m := by
  have hu : m.upsertClientSnapshots (m.filterClientSnapshots snaps) = m := by
    refine foldl_fixed ?_
    intro c mem
    obtain ⟨mem, he⟩ := mem_filter.mp mem
    obtain ⟨mem, -⟩ := mem_filter.mp mem
    rcases m.upsertClient_cases c with ⟨-, hs⟩ | ⟨ha, -⟩
    · exact hs
    · rw [(h c.id).mpr ⟨c, mem, he, rfl⟩] at ha
      cases ha
  rw [syncClients_eq, hu]
  refine foldl_fixed ?_
  intro id mem
  obtain ⟨c, hl, he, hs⟩ := (h id).mp (mem_keys_iff_has.mp mem)
  refine if_pos (mem_map.mpr ⟨c, ?_, hs⟩)
  exact mem_filter.mpr ⟨hl, he⟩

theorem syncWebSockets_settled {snaps : List WebSocketClientSnapshot}
    (h : ∀ id, (m.websocketClients target).has id = true ↔ ∃ c ∈ snaps, c.id = id) :
    m.syncWebSocketSnapshots snaps target = m := by
  have hu : snaps.foldl (upsertWebSocketSnapshot target) m = m := by
    refine foldl_fixed ?_
    intro c mem
    obtain ⟨p, hf⟩ := has_iff.mp ((h c.id).mpr ⟨c, mem, rfl⟩)
    simp [upsertWebSocketSnapshot, hf]
  rw [syncWebSockets_eq, hu]
  refine foldl_fixed ?_
  intro id mem
  obtain ⟨c, hl, hs⟩ := (h id).mp (mem_keys_iff_has.mp mem)
  exact if_pos (mem_map.mpr ⟨c, hl, hs⟩)

theorem syncExposed_settled {sent : Option (List WebSocketClientSnapshot)}
    (h : ∀ snaps, sent = some snaps → m.shouldExposeWebSocketState = true →
      ∀ id, (m.websocketClients target).has id = true ↔ ∃ c ∈ snaps, c.id = id) :
    m.syncExposed sent target = m := by
  rcases m.syncExposed_cases target sent with hs | ⟨snaps, hl, he, hs⟩
  · exact hs
  · rw [hs]
    exact m.syncWebSockets_settled target (h snaps hl he)

theorem apply_settled (h : m.Settled snapshot) : m.applySnapshot snapshot = m := by
  have hd : m.afterDevices snapshot = m := by
    refine m.upsertDevices_settled ?_
    intro d mem he
    exact (h.devices d.serial).mpr ⟨d, (mem_filter.mp mem).1, he, rfl⟩
  have hc : m.afterClients snapshot = m := by
    rw [afterClients, hd]
    exact m.syncClients_settled h.clients
  have ha : m.afterApps snapshot = m := by
    rw [afterApps, hc]
    exact m.syncExposed_settled .app h.apps
  have hw : m.afterWebs snapshot = m := by
    rw [afterWebs, ha]
    exact m.syncExposed_settled .web h.webs
  rw [apply_eq, hw]
  refine m.staleDevices_settled ?_
  intro serial ht
  exact (m.mem_activeSerials snapshot serial).mpr ((h.devices serial).mp ht)

end Application

/- The law of one application -/

def emittedSince (m n : Mirror) : List Event := n.events.drop m.events.length

theorem emittedSince_eq {m n : Mirror} {es : List Event} (h : n.events = m.events ++ es) :
    m.emittedSince n = es := by
  simp [emittedSince, h]

structure SnapshotLaw (m : Mirror) (snapshot : Snapshot) : Prop where
  devices : ∀ serial, (m.applySnapshot snapshot).devices.has serial = true ↔
    m.EnabledSerial snapshot serial
  clients : ∀ id, (m.applySnapshot snapshot).usbClients.has id = true ↔ m.SelectedClient snapshot id
  sameDevice : ∀ k p q, m.devices.get? k = some p →
    (m.applySnapshot snapshot).devices.get? k = some q → q = p
  sameClient : ∀ k p q, m.usbClients.get? k = some p →
    (m.applySnapshot snapshot).usbClients.get? k = some q → q = p
  sameWebSocket : ∀ target k p q, (m.websocketClients target).get? k = some p →
    ((m.applySnapshot snapshot).websocketClients target).get? k = some q → q = p
  clientsLeaveFirst : ∀ front back serial handle, m.emittedSince (m.applySnapshot snapshot) =
      front ++ .deviceDisconnected serial handle :: back → ∀ id, .clientDisconnected id ∉ back
  devicesEnterFirst : ∀ front back id handle,
    m.emittedSince (m.applySnapshot snapshot) = front ++ .clientConnected id handle :: back →
      ∀ serial handle, .deviceConnected serial handle ∉ back
  alternates : ∀ later key, replay (m.present key) (changesOf Event.change key
      (m.emittedSince ((snapshot :: later).foldl applySnapshot m))) =
    some (((snapshot :: later).foldl applySnapshot m).present key)
  quiet : (m.applySnapshot snapshot).emittedSince
    ((m.applySnapshot snapshot).applySnapshot snapshot) = []

/-- Every snapshot client on a mirrored device is also listed on an enabled device. -/
def NoStaleClient (m : Mirror) (snapshot : Snapshot) : Prop :=
  ∀ c ∈ snapshot.clients, m.devices.has c.query.deviceId = true → m.SelectedClient snapshot c.id

theorem suffix_after {α : Type*} {xs ys pre back : List α} {e : α}
    (hs : xs ++ ys = pre ++ e :: back) (ha : e ∉ xs) : ∃ mid, ys = mid ++ e :: back := by
  rcases append_eq_append_iff.mp hs with ⟨mid, -, hr⟩ | ⟨mid, hx, hr⟩
  · exact ⟨mid, hr⟩
  · cases mid with
    | nil => exact ⟨[], by simpa using hr.symm⟩
    | cons x mid =>
      have hh : x = e := by
        simp only [cons_append, cons.injEq] at hr
        exact hr.1.symm
      exact absurd (by simp [hx, hh]) ha

section Law
variable (m : Mirror) (snapshot : Snapshot)
variable {pre back : List Event} {handle : Nat}

theorem apply_clientsLeaveFirst {serial : String} (h : m.emittedSince (m.applySnapshot snapshot) =
      pre ++ .deviceDisconnected serial handle :: back) (id : JsNumber) :
    .clientDisconnected id ∉ back := by
  obtain ⟨entered, connected, left, sockets, gone, hg, hk, hki, hh, kind₄, kind₅⟩ :=
    m.apply_phases snapshot
  have hb : entered ++ (connected ++ (left ++ (sockets ++ gone))) =
      (entered ++ connected ++ left ++ sockets) ++ gone := by simp
  rw [emittedSince_eq hg, hb] at h
  have ha : Event.deviceDisconnected serial handle ∉ entered ++ connected ++ left ++ sockets := by
    simp only [mem_append, not_or]
    exact ⟨⟨⟨fun mem => hk _ mem, fun mem => hki _ mem⟩, fun mem => hh _ mem⟩, fun mem => kind₄ _ mem⟩
  obtain ⟨mid, hr⟩ := suffix_after h ha
  intro mem
  exact kind₅ (.clientDisconnected id) (by simp [hr, mem])

theorem apply_devicesEnterFirst {id : JsNumber} (h : m.emittedSince (m.applySnapshot snapshot) =
      pre ++ .clientConnected id handle :: back) (serial : String) (o : Nat) :
    .deviceConnected serial o ∉ back := by
  obtain ⟨entered, connected, left, sockets, gone, hg, hk, hki, hh, kind₄, kind₅⟩ :=
    m.apply_phases snapshot
  rw [emittedSince_eq hg] at h
  obtain ⟨mid, hr⟩ := suffix_after h (fun mem => hk _ mem)
  intro mem
  have hl : Event.deviceConnected serial o ∈ connected ++ (left ++ (sockets ++ gone)) := by
    simp [hr, mem]
  simp only [mem_append] at hl
  rcases hl with mem | mem | mem | mem
  · exact hki _ mem
  · exact hh _ mem
  · exact kind₄ _ mem
  · exact kind₅ _ mem

theorem apply_alternates (snaps : List Snapshot) (key : MirrorKey) :
    replay (m.present key) (changesOf Event.change key
      (m.emittedSince (snaps.foldl applySnapshot m))) =
        some ((snaps.foldl applySnapshot m).present key) := by
  obtain ⟨es, hg, -, hf⟩ := announces_foldl apply_tells m snaps
  rw [emittedSince_eq hg]
  exact hf key

theorem clients_selected_iff :
    (∀ id, (m.applySnapshot snapshot).usbClients.has id = true ↔ m.SelectedClient snapshot id) ↔
      m.NoStaleClient snapshot := by
  constructor
  · intro hse c mem ht
    exact (hse c.id).mp ((m.apply_clients_has snapshot c.id).mpr
      ⟨c, mem, .inl ht, rfl⟩)
  · intro hf id
    rw [apply_clients_has]
    constructor
    · rintro ⟨c, mem, ht | enabled, rfl⟩
      · exact hf c mem ht
      · exact ⟨c, mem, rfl, enabled⟩
    · rintro ⟨c, mem, hs, enabled⟩
      exact ⟨c, mem, .inr enabled, hs⟩

theorem enabledSerial_apply (serial : String) :
    (m.applySnapshot snapshot).EnabledSerial snapshot serial ↔ m.EnabledSerial snapshot serial := by
  unfold EnabledSerial
  simp only [deviceEnabled_settings (m.apply_settings snapshot)]

theorem apply_websockets_settled (target : WebSocketTarget) {sent : List WebSocketClientSnapshot}
    (hl : some sent = match target with
      | .app => snapshot.websocketAppClients
      | .web => snapshot.websocketWebClients)
    (he : (m.applySnapshot snapshot).shouldExposeWebSocketState = true) (id : JsNumber) :
    ((m.applySnapshot snapshot).websocketClients target).has id = true ↔ ∃ c ∈ sent, c.id = id := by
  obtain ⟨start, hse, -, hr⟩ := m.apply_websockets snapshot target _ hl
  have hsh : start.shouldExposeWebSocketState = true := by
    have hs : start.settings = (m.applySnapshot snapshot).settings :=
      hse.trans (m.apply_settings snapshot).symm
    exact (congrArg Settings.exposed hs).trans he
  have hsy : start.syncExposed (some sent) target = start.syncWebSocketSnapshots sent target := by
    simp [syncExposed, hsh]
  rw [hr, hsy]
  exact start.syncWebSockets_has sent target id

theorem settled_apply (h : m.NoStaleClient snapshot) :
    (m.applySnapshot snapshot).Settled snapshot where
  devices := by
    intro serial
    rw [apply_devices_has, enabledSerial_apply]
  clients := by
    intro id
    rw [(m.clients_selected_iff snapshot).mpr h id]
    simp only [SelectedClient, apply_devices_has]
    exact exists_congr fun c => and_congr_right fun _ => and_comm
  apps := fun _ hl hex id => m.apply_websockets_settled snapshot .app hl.symm hex id
  webs := fun _ hl hex id => m.apply_websockets_settled snapshot .web hl.symm hex id

/-- The law holds of an application exactly when no client of the snapshot hangs on a
device that is mirrored but no longer enabled. -/
theorem snapshotLaw_iff : m.SnapshotLaw snapshot ↔ m.NoStaleClient snapshot := by
  constructor
  · intro law
    exact (m.clients_selected_iff snapshot).mp law.clients
  · intro hf
    refine ⟨m.apply_devices_has snapshot, (m.clients_selected_iff snapshot).mpr hf,
      fun _ _ _ => m.apply_sameDevice snapshot,
      fun _ _ _ => m.apply_sameClient snapshot,
      fun target _ _ _ => m.apply_sameWebSocket snapshot target, ?_, ?_, ?_, ?_⟩
    · exact fun _ _ _ _ hs => m.apply_clientsLeaveFirst snapshot hs
    · exact fun _ _ _ _ hs => m.apply_devicesEnterFirst snapshot hs
    · exact fun later => m.apply_alternates (snapshot :: later)
    · have again := apply_settled _ _ (m.settled_apply snapshot hf)
      rw [again]
      exact emittedSince_eq (by simp)

end Law

/- A device that goes away with its clients still listed -/

def noFlags : EnableFlags := ⟨true, true, true, true, true⟩

def emptyMirror : Mirror where
  enable := noFlags
  closed := false
  enableWebSocket := false
  wssStarted := false
  desiredWSServerStarted := false
  devices := .empty
  usbClients := .empty
  websocketAppClients := .empty
  websocketWebClients := .empty
  selectedClient := none
  nextHandle := 0
  events := []

def phone : DeviceSnapshot := ⟨"Android", "phone", "d", [], "127.0.0.1"⟩

def runtime (id : Int) : ClientSnapshot where
  port := .ofInt 8901
  id := .ofInt id
  query := ⟨"app", "Android", "phone", "", "d", none⟩

/-- The Host forgets a device before its clients: the snapshot for the first client that
goes still lists the second one, and that one outlives the device in the mirror. -/
theorem client_outlives_device :
    let connected := emptyMirror.applySnapshot ⟨[phone], [runtime 1, runtime 2], none, none⟩
    let leaving : Snapshot := ⟨[], [runtime 2], none, none⟩
    (connected.applySnapshot leaving).devices.has "d" = false ∧
      (connected.applySnapshot leaving).usbClients.has (.ofInt 2) = true ∧
      ¬ connected.SnapshotLaw leaving := by
  intro connected leaving
  have gone : (connected.applySnapshot leaving).devices.has "d" = false := by decide +kernel
  have stays : (connected.applySnapshot leaving).usbClients.has (.ofInt 2) = true := by decide +kernel
  refine ⟨gone, stays, ?_⟩
  intro law
  obtain ⟨c, -, -, d, hl, -⟩ := (law.clients _).mp stays
  cases hl

end Mirror

end DebugRouter.Connector
