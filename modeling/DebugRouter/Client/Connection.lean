import DebugRouter.Client.Moves

/-!
The connection of the control client. `connectInternal` may run twice at once, its transports share
one field, and neither the handshake of a transport nor its close callback asks whether the
transport is still the current one. Three kinds of step depend on that; the runs without them keep
the connection in order.
-/
namespace DebugRouter.Client

open Library Protocol Option Function DaemonClient

/-- The transport has registered, its listeners are those of the client, and its close was not
announced. -/
def Transport.Registered (transport : Transport) : Prop :=
  transport.handshake = .resolved ∧ transport.messageListener = some .client ∧
    transport.closeListener = some .client ∧ transport.announced = false

instance (transport : Transport) : Decidable transport.Registered :=
  inferInstanceAs (Decidable (_ ∧ _))

namespace DaemonClient

/- The steps that depend on which transport is current -/

/-- A register response comes to a transport that is not the current one. -/
def RegistersLate (c : DaemonClient) : ClientAct → Prop
  | .message t value =>
    c.controlTransport ≠ some t ∧ (c.transports t).destroyed = false ∧
      (c.transports t).messageListener = some .handshake ∧
      isMultiplexerHandshakeErrorResponse value = false ∧ isMultiplexerRegisterResponse value = true
  | _ => False

/-- The activation was suspended and comes to its transport now: the daemon is there, or the old
socket is gone. -/
def reaches (c : DaemonClient) (f : FlowId) (ensured : Ensured) : Bool :=
  match c.flows f with
  | some ⟨_, _, .ensuring⟩ => ensured = .usable
  | some ⟨false, _, .closing t ended⟩ => ended || (c.transports t).announced
  | _ => false

/-- A transport is opened while the client still listens to another. -/
def OpensBeside (c : DaemonClient) : ClientAct → Prop
  | .resume f ensured luck =>
    c.unsubscribe.isSome = true ∧ c.closed = false ∧ luck.creates = true ∧ c.reaches f ensured = true
  | _ => False

/-- A transport closes during its handshake while another is current. -/
def ClosesLate (c : DaemonClient) : ClientAct → Prop
  | .closeEvent t =>
    (c.transports t).announced = false ∧ (c.transports t).closeListener = some .handshake ∧
      c.controlTransport.isSome = true ∧ c.controlTransport ≠ some t ∧ c.status ≠ .disconnected
  | _ => False

def Breaks (c : DaemonClient) (act : ClientAct) : Prop :=
  c.RegistersLate act ∨ c.OpensBeside act ∨ c.ClosesLate act

/-- The current transport is destroyed, and its close is not announced yet. -/
def Destroys (c : DaemonClient) : ClientAct → Prop
  | .destroy t => c.controlTransport = some t
  | .sendRpc _ luck => luck.packs = true ∧ luck.writes = false
  | _ => False

instance (c : DaemonClient) : ∀ act, Decidable (c.RegistersLate act)
  | .message .. => inferInstanceAs (Decidable (_ ∧ _))
  | .connect | .call .. | .sendRpc .. | .resume .. | .settleConnect _ | .socketConnect .. | .destroy _
  | .closeEvent _ | .handshakeTimeout _ | .rpcTimeout _ | .close => .isFalse nofun

instance (c : DaemonClient) : ∀ act, Decidable (c.ClosesLate act)
  | .closeEvent _ => inferInstanceAs (Decidable (_ ∧ _))
  | .connect | .call .. | .sendRpc .. | .resume .. | .settleConnect _ | .socketConnect ..
  | .message ..
  | .destroy _ | .handshakeTimeout _ | .rpcTimeout _ | .close => .isFalse nofun

instance (c : DaemonClient) : ∀ act, Decidable (c.OpensBeside act)
  | .resume .. => inferInstanceAs (Decidable (_ ∧ _))
  | .connect | .call .. | .sendRpc .. | .settleConnect _ | .socketConnect .. | .message ..
  | .destroy _
  | .closeEvent _ | .handshakeTimeout _ | .rpcTimeout _ | .close => .isFalse nofun

instance (c : DaemonClient) (act : ClientAct) : Decidable (c.Breaks act) :=
  inferInstanceAs (Decidable (_ ∨ _))

/- What the connection is for -/

def ConnectedRegistered (c : DaemonClient) : Prop :=
  c.status = .connected → ∃ t, c.controlTransport = some t ∧ (c.transports t).Registered

/-- The same, and the socket is not destroyed either. -/
def ConnectedLive (c : DaemonClient) : Prop :=
  c.status = .connected → ∃ t, c.controlTransport = some t ∧ (c.transports t).Registered ∧
    (c.transports t).destroyed = false

/-- The close of another transport than the current one changes nothing of the current one. -/
def LeavesNewer (c : DaemonClient) : ClientAct → Prop
  | .closeEvent t => ∀ u, c.controlTransport = some u → u ≠ t →
      (c.step (.closeEvent t)).controlTransport = some u ∧
      (c.step (.closeEvent t)).transports u = c.transports u ∧
      (c.step (.closeEvent t)).unsubscribe = c.unsubscribe ∧
      (c.step (.closeEvent t)).status = c.status ∧
      (c.step (.closeEvent t)).pendingRpc = c.pendingRpc ∧
      (c.step (.closeEvent t)).timers = c.timers ∧
      (c.step (.closeEvent t)).settlements = c.settlements
  | _ => True

def StaysClosed (c : DaemonClient) (act : ClientAct) : Prop :=
  c.closed = true →
    (c.step act).closed = true ∧ c.status ≠ .connected ∧ (c.step act).status ≠ .connected ∧
      (c.step act).events.count .connected = c.events.count .connected

/- The invariant -/

/-- What holds of a transport even while its close is announced. -/
structure Hangs (ours : Prop) (transport : Transport) : Prop where
  bound : transport.closeListener = some .client → ours
  waiting : transport.connectListener = true ∨ transport.timer = true → transport.handshake = .pending
  gone : transport.announced = true → transport.destroyed = true

/-- A transport fits what the client holds: whether it is the one the client listens to, and whether
it is the current one. It may be destroyed under the client unless `strict`. -/
structure Fits (strict ours current : Prop) (transport : Transport) : Prop
    extends Hangs ours transport where
  heard : ours → current ∧ transport.Registered
  live : strict → ours → transport.destroyed = false
  writable : current → transport.writable = true

structure Sound (strict : Prop) (c : DaemonClient) : Prop where
  fits : ∀ t, Fits strict (c.unsubscribe = some t) (c.controlTransport = some t) (c.transports t)
  listening : c.status = .connected → c.unsubscribe.isSome = true
  finished : c.closed = true → c.controlTransport = none

variable {c : DaemonClient} {t : TransportId} {strict : Prop}

theorem initial_sound : initial.Sound strict where
  fits _ := ⟨⟨nofun, nofun, fun _ => rfl⟩, nofun, nofun, nofun⟩
  listening := nofun
  finished := nofun

theorem Sound.connectedRegistered (h : c.Sound strict) : c.ConnectedRegistered := by
  intro hc
  obtain ⟨t, ho⟩ := isSome_iff_exists.mp (h.listening hc)
  exact ⟨t, (h.fits t).heard ho⟩

theorem Sound.closed_disconnected (hs : c.Sound strict) (hcl : c.closed = true) :
    c.status ≠ .connected := by
  intro connected
  obtain ⟨t, hc, -⟩ := hs.connectedRegistered connected
  rw [hs.finished hcl] at hc
  cases hc

theorem Sound.silent (sound : c.Sound strict) (h : c.controlTransport = none) :
    c.unsubscribe = none := by
  by_contra listening
  obtain ⟨t, ours⟩ := ne_none_iff_exists'.mp listening
  obtain ⟨current, -⟩ := (sound.fits t).heard ours
  rw [h] at current
  cases current

theorem Sound.not_ours (hs : c.Sound strict) (hh : ¬ (c.transports t).Registered) :
    c.unsubscribe ≠ some t :=
  fun ho => hh ((hs.fits t).heard ho).2

/- Pieces of a step -/

variable {c' : DaemonClient} {luck : Luck} {v : Json} {act : ClientAct}

theorem Sound.congr (hso : c.Sound strict) (ht : c'.transports = c.transports)
    (hc : c'.controlTransport = c.controlTransport) (hu : c'.unsubscribe = c.unsubscribe)
    (hcl : c'.closed = c.closed) (hst : c'.status = c.status ∨ c'.status ≠ .connected) :
    c'.Sound strict where
  fits t := by
    rw [ht, hc, hu]
    exact hso.fits t
  listening connected := by
    rw [hu]
    rcases hst with hs | lowered
    · exact hso.listening (hs ▸ connected)
    · exact absurd connected lowered
  finished ended := by
    rw [hcl] at ended
    rw [hc]
    exact hso.finished ended

theorem Sound.update {change : Transport → Transport} (hso : c.Sound strict)
    (fits : Fits strict (c.unsubscribe = some t) (c.controlTransport = some t)
      (change (c.transports t))) :
    (c.update t change).Sound strict where
  fits u := by
    by_cases hs : u = t
    · subst hs
      have at_u : (c.update u change).transports u = change (c.transports u) := update_self ..
      rw [at_u]
      exact fits
    · have he : (c.update t change).transports u = c.transports u := update_of_ne hs ..
      rw [he]
      exact hso.fits u
  listening := hso.listening
  finished := hso.finished

theorem Sound.destroy (hs : c.Sound strict) (hsp : strict → c.unsubscribe ≠ some t) :
    (c.destroy t).Sound strict :=
  hs.update { hs.fits t with gone := fun _ => rfl, live := fun hm ho => absurd ho (hsp hm) }

theorem Sound.send (hs : c.Sound strict)
    (hw : strict → c.unsubscribe = some t → luck.packs = true → luck.writes = true) :
    (c.send t luck).1.Sound strict := by
  unfold DaemonClient.send
  split
  · exact hs
  next hp =>
    split
    · exact hs
    next hu =>
      refine hs.destroy ?_
      intro hm ho
      have hf := hs.fits t
      exact hu ⟨hf.live hm ho, hf.writable (hf.heard ho).1, hw hm ho (by simpa using hp)⟩

theorem Sound.failHandshake (hso : c.Sound strict) (hot : c.unsubscribe ≠ some t) :
    (c.failHandshake t).Sound strict := by
  have hs : (c.settleHandshake t .rejected).Sound strict :=
    hso.update ⟨⟨nofun, nofun, (hso.fits t).gone⟩, fun ho => absurd ho hot, fun _ ho => absurd ho hot,
      (hso.fits t).writable⟩
  refine Sound.destroy (c := { c.settleHandshake t .rejected with
    controlTransport := _, status := _ }) ?_ fun _ => hot
  constructor
  case listening => exact nofun
  case finished =>
    intro he
    simp [hs.finished he]
  case fits =>
    intro u
    have fits := hs.fits u
    have hc : (if (c.settleHandshake t .rejected).controlTransport = some t then none
        else (c.settleHandshake t .rejected).controlTransport) = some u →
        (c.settleHandshake t .rejected).controlTransport = some u := by
      split <;> simp
    refine { fits with heard := ?_, writable := fun now => fits.writable (hc now) }
    intro ho
    have apart : u ≠ t := by
      rintro rfl
      exact hot ho
    obtain ⟨now, hr⟩ := fits.heard ho
    refine ⟨?_, hr⟩
    rw [if_neg]
    · exact now
    · rw [now]
      simpa using apart

theorem Sound.registered (hs : c.Sound strict) (hc : c.controlTransport = some t)
    (live : (c.transports t).destroyed = false) (ho : c.unsubscribe ≠ some t) :
    (c.registered t).Sound strict := by
  have silent : ∀ u, c.unsubscribe ≠ some u := by
    intro u hou
    obtain ⟨now, -⟩ := (hs.fits u).heard hou
    rw [hc] at now
    cases now
    exact ho hou
  have hu : (c.transports t).announced = false := by
    cases ha : (c.transports t).announced with
    | false => rfl
    | true =>
      have destroyed := (hs.fits t).gone ha
      rw [live] at destroyed
      cases destroyed
  constructor
  case listening => exact fun _ => rfl
  case finished => exact hs.finished
  case fits =>
    intro u
    by_cases hsa : u = t
    · subst hsa
      have at_u : (c.registered u).transports u =
          { c.transports u with
            connectListener := false, messageListener := some .client, closeListener := some .client
            timer := false, handshake := .resolved } := by
        simp [DaemonClient.registered, settleHandshake, DaemonClient.update]
      rw [at_u]
      exact ⟨⟨fun _ => rfl, by simp, (hs.fits u).gone⟩, fun _ => ⟨hc, rfl, rfl, rfl, hu⟩,
        fun _ _ => live, (hs.fits u).writable⟩
    · have he : (c.registered t).transports u = c.transports u := by
        simp [DaemonClient.registered, settleHandshake, DaemonClient.update, hsa]
      rw [he]
      have fits := hs.fits u
      have ho : ¬ some t = some u := fun hou => hsa (Option.some.inj hou).symm
      exact { fits with
        heard := fun hou => absurd hou ho
        live := fun _ hou => absurd hou ho
        bound := fun hi => absurd (fits.bound hi) (silent u) }

theorem released_fits {u : TransportId} (h : Hangs (c.unsubscribe = some u) (c.transports u)) :
    Fits strict False False (c.released u) := by
  have unheard : Fits strict False False (c.unheard u) := by
    unfold unheard
    split
    · exact ⟨⟨nofun, h.waiting, h.gone⟩, nofun, nofun, nofun⟩
    next ho => exact ⟨⟨fun hi => ho (h.bound hi), h.waiting, h.gone⟩, nofun, nofun, nofun⟩
  unfold released
  split
  · exact { unheard with writable := nofun }
  · exact unheard

theorem closeSocket_sound (h : ∀ u, Hangs (c.unsubscribe = some u) (c.transports u)) (err : String) :
    (c.closeSocket err).1.Sound strict := by
  rw [closeSocket_eq]
  constructor
  case listening => exact nofun
  case finished => exact fun _ => rfl
  case fits =>
    intro u
    simpa using released_fits (h u)

/- Which steps open a transport -/

variable {f : FlowId} {ensureDaemon : Bool} {ensured : Ensured}

theorem opens_registerTransport
    (opens : (c.registerTransport f luck).nextTransport ≠ c.nextTransport) :
    c.closed = false ∧ luck.creates = true := by
  unfold registerTransport at opens
  split at opens
  · exact absurd rfl opens
  next live =>
    split at opens
    · exact absurd rfl opens
    next creates => exact ⟨by simpa using live, by simpa using creates⟩

theorem opens_proceed (opens : (c.proceed f ensureDaemon luck).nextTransport ≠ c.nextTransport) :
    ensureDaemon = false ∧ c.closed = false ∧ luck.creates = true := by
  unfold proceed at opens
  split at opens
  · exact absurd rfl opens
  · split at opens
    · exact absurd rfl opens
    next plain =>
      have free := opens_registerTransport (c := { c with status := .connecting }) opens
      exact ⟨by simpa using plain, free⟩

/-- An attempt that starts over closes the current transport first. -/
theorem opens_attemptFlow {flow : Flow}
    (opens : (c.attemptFlow f flow luck).nextTransport ≠ c.nextTransport) :
    c.controlTransport = none := by
  unfold attemptFlow at opens
  split at opens
  · exact absurd rfl opens
  · cases current : c.controlTransport with
    | none => rfl
    | some t =>
      refine absurd ?_ opens
      simp [closeSocket, current, setPoint, endTransport_eq, unsubscribeTransport_eq, rejectAll_eq]

theorem opens_connectInternal
    (opens : (c.connectInternal ensureDaemon luck).nextTransport ≠ c.nextTransport) :
    c.controlTransport = none := by
  unfold connectInternal at opens
  split at opens
  · exact absurd rfl opens
  · exact opens_attemptFlow (c := { c with nextFlow := c.nextFlow + 1 }) opens

theorem opens_connect (opens : (c.connect luck).nextTransport ≠ c.nextTransport) :
    c.controlTransport = none := by
  unfold connect at opens
  split at opens
  · exact absurd rfl opens
  · exact opens_connectInternal opens

theorem opens_call {method : ControlRpcMethod} {params : Json}
    (opens : (c.call method params ensureDaemon luck).nextTransport ≠ c.nextTransport) :
    c.controlTransport = none := by
  unfold call at opens
  split at opens
  · exact absurd rfl opens
  · split at opens
    · exact opens_connect opens
    · exact opens_connectInternal opens

theorem opens_resume (opens : (c.resume f ensured luck).nextTransport ≠ c.nextTransport) :
    c.controlTransport = none ∨
      c.closed = false ∧ luck.creates = true ∧ c.reaches f ensured = true := by
  unfold resume at opens
  unfold reaches
  cases running : c.flows f with
  | none => exact absurd (by simp [running]) opens
  | some flow =>
    obtain ⟨ensureDaemon, attempt, point⟩ := flow
    simp only [running] at opens
    cases point with
    | closing t ended =>
      dsimp only at opens
      split at opens
      next gone =>
        obtain ⟨rfl, live, creates⟩ := opens_proceed opens
        exact .inr ⟨live, creates, by simpa using gone⟩
      · exact absurd rfl opens
    | ensuring =>
      cases ensured with
      | usable =>
        obtain ⟨live, creates⟩ := opens_registerTransport opens
        exact .inr ⟨live, creates, by simp⟩
      | retry => exact .inl (opens_attemptFlow opens)
      | thrown => exact absurd rfl opens
    | registering t =>
      dsimp only at opens
      split at opens <;> exact absurd rfl opens
    | delaying => exact .inl (opens_attemptFlow opens)
    | returned | thrown | finished => exact absurd rfl opens

theorem settleConnect_nextTransport : (c.settleConnect f).nextTransport = c.nextTransport := by
  unfold settleConnect
  split <;> rfl

/- The steps -/

theorem Sound.flowMove (hso : c.Sound strict) (hm : FlowMove c c')
    (ha : c'.nextTransport ≠ c.nextTransport → c.unsubscribe = none) : c'.Sound strict := by
  cases hm with
  | waited st _ _ _ lowered => exact hso.congr rfl rfl rfl rfl lowered
  | replaced err =>
    exact (closeSocket_sound (fun u => (hso.fits u).toHangs) err).congr rfl rfl rfl rfl (.inl rfl)
  | opened st _ _ _ lowered live =>
    have silent : c.unsubscribe = none := ha (Nat.succ_ne_self _)
    constructor
    case listening =>
      intro hco
      rcases lowered with hs | lowered
      · exact hso.listening (hs ▸ hco)
      · exact absurd hco lowered
    case finished =>
      intro hc
      rw [live] at hc
      cases hc
    case fits =>
      intro u
      dsimp only
      rw [silent]
      by_cases hs : u = c.nextTransport
      · subst hs
        rw [update_self]
        exact ⟨⟨nofun, fun _ => rfl, nofun⟩, nofun, nofun, fun _ => rfl⟩
      · rw [update_of_ne hs]
        have fits := hso.fits u
        rw [silent] at fits
        refine { fits with heard := nofun, live := nofun, writable := ?_ }
        intro hcu
        exact absurd (some.inj hcu).symm hs

theorem Sound.onConnect (h : c.Sound strict) (t : TransportId) (luck : Luck) :
    (c.onConnect t luck).Sound strict := by
  unfold DaemonClient.onConnect
  split
  next hl =>
    have hp := (h.fits t).waiting (.inl hl)
    have quiet : c.unsubscribe ≠ some t :=
      h.not_ours fun hr => by simp [Transport.Registered, hp] at hr
    have hs : (c.send t luck).1.Sound strict := h.send fun _ hou => absurd hou quiet
    have other : (c.send t luck).1.unsubscribe ≠ some t := by
      have same : (c.send t luck).1.unsubscribe = c.unsubscribe := by
        unfold DaemonClient.send
        split_ifs <;> rfl
      rw [same]
      exact quiet
    cases hw : c.send t luck with
    | mk after accepted =>
      rw [hw] at hs other
      cases accepted with
      | true => exact hs
      | false =>
        dsimp only
        split
        · exact hs
        · exact hs.failHandshake other
  · exact h

theorem Sound.onHandshakeTimeout (h : c.Sound strict) (t : TransportId) :
    (c.onHandshakeTimeout t).Sound strict := by
  unfold DaemonClient.onHandshakeTimeout
  split
  next ha =>
    have hp := (h.fits t).waiting (.inr ha)
    exact h.failHandshake (h.not_ours fun hr => by simp [Transport.Registered, hp] at hr)
  · exact h

theorem Sound.settle (h : c.Sound strict) (id : Int) (out : Outcome) :
    (c.settle id out).Sound strict :=
  h.congr rfl rfl rfl rfl (.inl rfl)

theorem Sound.handleTransportMessage (h : c.Sound strict) (v : Json) :
    (c.handleTransportMessage v).Sound strict := by
  unfold DaemonClient.handleTransportMessage handleRpcResponse
  split
  · split
    · exact h
    · exact h.settle _ _
  · exact h

theorem Sound.onMessage (hs : c.Sound strict)
    (ht : ¬ c.RegistersLate (.message t v)) : (c.onMessage t v).Sound strict := by
  unfold DaemonClient.onMessage
  split
  · exact hs
  next hl =>
    split
    · exact hs
    next hh =>
      have ho : c.unsubscribe ≠ some t :=
        hs.not_ours fun hr => by simp [Transport.Registered, hh] at hr
      unfold onHandshakeMessage
      split
      · exact hs.failHandshake ho
      · split
        next hn ha =>
          have hc : c.controlTransport = some t := by
            by_contra hla
            exact ht ⟨hla, by simpa using hl, hh, by simpa using hn, ha⟩
          exact hs.registered hc (by simpa using hl) ho
        · exact hs.failHandshake ho
    · exact hs.handleTransportMessage v

theorem Sound.onCloseEvent (h : c.Sound strict) (t : TransportId) :
    (c.onCloseEvent t).Sound strict := by
  have hf := h.fits t
  unfold DaemonClient.onCloseEvent
  split
  · exact h
  · generalize han : (fun tr : Transport =>
      { tr with destroyed := true, announced := true, connectListener := false }) = ann
    have hangs : Hangs (c.unsubscribe = some t) (ann (c.transports t)) := by
      subst han
      exact ⟨hf.bound, fun har => hf.waiting (.inr (by simpa using har)), fun _ => rfl⟩
    have kept : (ann (c.transports t)).writable = (c.transports t).writable := by
      subst han
      rfl
    have aside : (c.transports t).closeListener ≠ some .client →
        c.unsubscribe ≠ some t ∧ (c.update t ann).Sound strict := by
      intro he
      have o : c.unsubscribe ≠ some t := h.not_ours fun hr => he hr.2.2.1
      exact ⟨o, h.update ⟨hangs, fun ho => absurd ho o, fun _ ho => absurd ho o,
        fun hcu => kept ▸ hf.writable hcu⟩⟩
    cases hi : (c.transports t).closeListener with
    | none =>
      obtain ⟨o, ha⟩ := aside (by simp [hi])
      exact ha.update { ha.fits t with bound := by simp, heard := fun ho => absurd ho o }
    | some lis =>
      cases lis with
      | handshake =>
        obtain ⟨o, ha⟩ := aside (by simp [hi])
        have failed := ha.failHandshake o
        exact failed.update { failed.fits t with bound := by simp, heard := fun ho => absurd ho o }
      | client =>
        have all : ∀ u, Hangs ((c.update t ann).unsubscribe = some u)
            ((c.update t ann).transports u) := by
          intro u
          by_cases hs : u = t
          · subst hs
            simpa [DaemonClient.update] using hangs
          · simpa [DaemonClient.update, hs] using (h.fits u).toHangs
        have hc : Sound strict _ := closeSocket_sound all "Multiplexer control socket closed"
        have silent : ((c.update t ann).closeSocket
            "Multiplexer control socket closed").1.unsubscribe = none := by
          rw [closeSocket_eq]
        refine hc.update { hc.fits t with bound := by simp, heard := ?_ }
        rw [silent]
        simp

theorem Sound.sendRpc {method : ControlRpcMethod} (hso : c.Sound strict)
    (hw : strict → luck.packs = true → luck.writes = true) :
    (c.sendRpc method luck).Sound strict := by
  unfold DaemonClient.sendRpc
  split
  · exact hso
  · dsimp only
    split
    · exact hso.congr rfl rfl rfl rfl (.inl rfl)
    next t _ =>
      have opened : Sound strict { c with
          nextRpcId := c.nextRpcId + 1
          pendingRpc := c.pendingRpc.set c.nextRpcId method
          timers := c.timers ++ [c.nextRpcId] } := hso.congr rfl rfl rfl rfl (.inl rfl)
      have hs := opened.send (t := t) fun hm _ => hw hm
      split
      next hw =>
        rw [hw] at hs
        exact hs
      next hw =>
        rw [hw] at hs
        exact hs.settle _ _

theorem Sound.close (h : c.Sound strict) : c.close.Sound strict :=
  closeSocket_sound (c := { c with closed := true, connectPromise := none })
    (fun u => (h.fits u).toHangs) _

theorem Sound.step (hs : c.Sound strict) (hor : ¬ c.Breaks act)
    (hg : strict → ¬ c.Destroys act) : (c.step act).Sound strict := by
  cases act with
  | connect => exact hs.flowMove (connect_move _) fun opens => hs.silent (opens_connect opens)
  | call method params ensureDaemon luck =>
    exact hs.flowMove (call_move method params ensureDaemon luck) fun opens =>
      hs.silent (opens_call opens)
  | sendRpc method luck =>
    refine hs.sendRpc ?_
    intro hm hp
    by_contra hu
    exact hg hm ⟨hp, by simpa using hu⟩
  | resume f ensured luck =>
    refine hs.flowMove (resume_move f ensured luck) fun opens => ?_
    rcases opens_resume opens with free | beside
    · exact hs.silent free
    · by_contra listening
      exact hor (.inr (.inl ⟨isSome_iff_ne_none.mpr listening, beside⟩))
  | settleConnect f =>
    exact hs.flowMove (settleConnect_move f) fun opens => absurd settleConnect_nextTransport opens
  | socketConnect t luck => exact hs.onConnect t luck
  | message t v => exact hs.onMessage fun hl => hor (.inl hl)
  | destroy t => exact hs.destroy fun hm hou => hg hm ((hs.fits t).heard hou).1
  | closeEvent t => exact hs.onCloseEvent t
  | handshakeTimeout t => exact hs.onHandshakeTimeout t
  | rpcTimeout id =>
    change (c.onRpcTimeout id).Sound strict
    unfold onRpcTimeout
    split
    · exact hs.settle _ _
    · exact hs
  | close => exact hs.close

/- The close of another transport -/

theorem Sound.leavesNewer (hs : c.Sound strict) (hor : ¬ c.Breaks act) : c.LeavesNewer act := by
  cases act with
  | closeEvent t =>
    intro u hc ha
    change (c.onCloseEvent t).controlTransport = some u ∧
      (c.onCloseEvent t).transports u = c.transports u ∧
      (c.onCloseEvent t).unsubscribe = c.unsubscribe ∧ (c.onCloseEvent t).status = c.status ∧
      (c.onCloseEvent t).pendingRpc = c.pendingRpc ∧ (c.onCloseEvent t).timers = c.timers ∧
      (c.onCloseEvent t).settlements = c.settlements
    unfold DaemonClient.onCloseEvent
    split
    · exact ⟨hc, rfl, rfl, rfl, rfl, rfl, rfl⟩
    next hu =>
      cases hi : (c.transports t).closeListener with
      | none => simp [DaemonClient.update, hc, ha]
      | some lis =>
        cases lis with
        | handshake =>
          have other : c.controlTransport ≠ some t := by
            rw [hc]
            simpa using ha
          have closed : c.status = .disconnected := by
            by_contra hco
            exact hor (.inr (.inr ⟨by simpa using hu, hi, by simp [hc], other, hco⟩))
          simp [DaemonClient.update, DaemonClient.failHandshake, settleHandshake,
            DaemonClient.destroy, hc, ha, closed]
        | client =>
          -- the client listens to the current transport only
          obtain ⟨now, -⟩ := (hs.fits t).heard ((hs.fits t).bound hi)
          rw [hc] at now
          exact absurd (Option.some.inj now) ha
  | _ => trivial

/- After `close` -/

/-- A change that does not reopen the client and announces no connection. -/
structure Quiet (c c' : DaemonClient) : Prop where
  closed : c.closed = true → c'.closed = true
  events : c'.events.count .connected = c.events.count .connected

theorem quiet_of_same (hc : c'.closed = c.closed) (hev : c'.events = c.events) : Quiet c c' :=
  ⟨fun he => hc ▸ he, by rw [hev]⟩

theorem closeSocket_quiet (err : String) : Quiet c (c.closeSocket err).1 := by
  rw [closeSocket_eq]
  refine ⟨id, ?_⟩
  cases c.controlTransport <;> simp

theorem FlowMove.quiet (h : FlowMove c c') : Quiet c c' := by
  cases h with
  | waited | opened => exact quiet_of_same rfl rfl
  | replaced err => exact ⟨(closeSocket_quiet err).closed, (closeSocket_quiet err).events⟩

theorem send_quiet (t : TransportId) (luck : Luck) : Quiet c (c.send t luck).1 := by
  unfold send
  split_ifs <;> exact quiet_of_same rfl rfl

theorem onConnect_quiet (t : TransportId) (luck : Luck) : Quiet c (c.onConnect t luck) := by
  unfold onConnect
  split
  · have hs := send_quiet (c := c) t luck
    split
    next hw =>
      rw [hw] at hs
      exact hs
    next hw =>
      rw [hw] at hs
      split
      · exact hs
      · exact ⟨hs.closed, hs.events⟩
  · exact quiet_of_same rfl rfl

theorem sendRpc_quiet (method : ControlRpcMethod) (luck : Luck) :
    Quiet c (c.sendRpc method luck) := by
  unfold sendRpc
  split
  · exact quiet_of_same rfl rfl
  · dsimp only
    split
    · exact quiet_of_same rfl rfl
    next t _ =>
      have hs := send_quiet (c := { c with
        nextRpcId := c.nextRpcId + 1
        pendingRpc := c.pendingRpc.set c.nextRpcId method
        timers := c.timers ++ [c.nextRpcId] }) t luck
      split
      next hw =>
        rw [hw] at hs
        exact ⟨hs.closed, hs.events⟩
      next hw =>
        rw [hw] at hs
        exact ⟨hs.closed, hs.events⟩

theorem onCloseEvent_quiet (t : TransportId) : Quiet c (c.onCloseEvent t) := by
  unfold onCloseEvent
  split
  · exact quiet_of_same rfl rfl
  · dsimp only
    split
    · exact quiet_of_same rfl rfl
    · exact quiet_of_same rfl rfl
    · have hc := closeSocket_quiet (c := c.update t fun tr =>
        { tr with destroyed := true, announced := true, connectListener := false })
        "Multiplexer control socket closed"
      exact ⟨hc.closed, hc.events⟩

theorem onMessage_quiet (ht : ¬ c.RegistersLate (.message t v))
    (he : c.controlTransport ≠ some t) : Quiet c (c.onMessage t v) := by
  unfold onMessage
  split
  · exact quiet_of_same rfl rfl
  next hl =>
    split
    · exact quiet_of_same rfl rfl
    next hh =>
      unfold onHandshakeMessage
      split
      · exact quiet_of_same rfl rfl
      · split
        next hn ha => exact absurd ⟨he, by simpa using hl, hh, by simpa using hn, ha⟩ ht
        · exact quiet_of_same rfl rfl
    · unfold handleTransportMessage handleRpcResponse
      split
      · split <;> exact quiet_of_same rfl rfl
      · exact quiet_of_same rfl rfl

theorem step_quiet (ht : ¬ c.RegistersLate act) (hl : c.controlTransport = none) :
    Quiet c (c.step act) := by
  cases act with
  | connect => exact (connect_move _).quiet
  | call method params ensureDaemon luck => exact (call_move method params ensureDaemon luck).quiet
  | sendRpc method luck => exact sendRpc_quiet method luck
  | resume f ensured luck => exact (resume_move f ensured luck).quiet
  | settleConnect f => exact (settleConnect_move f).quiet
  | socketConnect t luck => exact onConnect_quiet t luck
  | message t v => exact onMessage_quiet ht (by simp [hl])
  | destroy t => exact quiet_of_same rfl rfl
  | closeEvent t => exact onCloseEvent_quiet t
  | handshakeTimeout t =>
    change Quiet c (c.onHandshakeTimeout t)
    unfold onHandshakeTimeout
    split <;> exact quiet_of_same rfl rfl
  | rpcTimeout id =>
    change Quiet c (c.onRpcTimeout id)
    unfold onRpcTimeout
    split <;> exact quiet_of_same rfl rfl
  | close =>
    have closed := closeSocket_quiet (c := { c with closed := true, connectPromise := none })
      "Multiplexer remote client closed"
    exact ⟨fun _ => closed.closed rfl, closed.events⟩

theorem Sound.staysClosed (hs : c.Sound False) (ho : ¬ c.Breaks act) : c.StaysClosed act := by
  intro hc
  have hq := step_quiet (fun hl => ho (.inl hl)) (hs.finished hc)
  have after := hs.step ho nofun
  exact ⟨hq.closed hc, hs.closed_disconnected hc, after.closed_disconnected (hq.closed hc), hq.events⟩

/- Whole runs -/

theorem Sound.connectedLive (h : c.Sound True) : c.ConnectedLive := by
  intro hc
  obtain ⟨t, ho⟩ := isSome_iff_exists.mp (h.listening hc)
  obtain ⟨hcu, hr⟩ := (h.fits t).heard ho
  exact ⟨t, hcu, hr, (h.fits t).live trivial ho⟩

/-- The connection machine, over the runs in which no transport registers, opens or closes beside
the current one: a connected client holds the registered transport, whose close was not announced,
and which is not destroyed either unless a step destroyed it under the client; the close of another
transport leaves the current one and the RPCs alone; and a closed client never connects. -/
theorem connection_orderly {acts : List ClientAct}
    (orderly : Along step (fun c act => ¬ c.Breaks act) initial acts) :
    Throughout step ConnectedRegistered initial acts ∧
    (Along step (fun c act => ¬ c.Destroys act) initial acts →
      Throughout step ConnectedLive initial acts) ∧
    Along step LeavesNewer initial acts ∧
    Along step StaysClosed initial acts := by
  have kept : ∀ c act, Sound False c → ¬ c.Breaks act → (c.step act).Sound False :=
    fun _ _ hs orderly => hs.step orderly nofun
  refine ⟨?_, ?_, ?_, ?_⟩
  · exact throughout_mono (fun _ hs => hs.connectedRegistered)
      (throughout_of_along kept initial_sound orderly)
  · intro hg
    have strictly : ∀ c act, Sound True c → ¬ c.Breaks act ∧ ¬ c.Destroys act →
        (c.step act).Sound True :=
      fun _ _ hs hb => hs.step hb.1 fun _ => hb.2
    exact throughout_mono (fun _ hs => hs.connectedLive)
      (throughout_of_along strictly initial_sound (along_both orderly hg))
  · exact along_of_along (fun c act hs orderly => ⟨kept c act hs orderly, hs.leavesNewer orderly⟩)
      initial_sound orderly
  · exact along_of_along (fun c act hs orderly => ⟨kept c act hs orderly, hs.staysClosed orderly⟩)
      initial_sound orderly

def registerResponse : Json := .obj [("kind", .str "register-response"), ("ok", .bool true)]

theorem reconnection_orderly :
    let acts := [.connect, .resume 0 .usable ⟨true, true, true⟩, .socketConnect 0 ⟨true, true, true⟩,
      .message 0 registerResponse, .resume 0 .usable ⟨true, true, true⟩, .settleConnect 0,
      .closeEvent 0,
      .connect, .resume 1 .usable ⟨true, true, true⟩, .socketConnect 1 ⟨true, true, true⟩,
      .message 1 registerResponse, .closeEvent 0, .close]
    Along step (fun c act => ¬ c.Breaks act) initial acts ∧
      ((acts.take 4).foldl step initial).status = .connected ∧
      Throughout step ConnectedRegistered initial acts ∧
      (Along step (fun c act => ¬ c.Destroys act) initial acts →
        Throughout step ConnectedLive initial acts) ∧
      Along step LeavesNewer initial acts ∧
      Along step StaysClosed initial acts := by
  intro acts
  have ho : Along step (fun c act => ¬ c.Breaks act) initial acts := by decide +kernel
  exact ⟨ho, by decide +kernel, connection_orderly ho⟩

/-- `close` in the middle of a handshake: the register response still connects the client. And a
shutdown call inside `ensureDaemon`: its transport registers, the outer activation opens another
beside it, the client is connected with a transport that has not registered, and the close of the
first closes the second. -/
theorem handshake_outlives_transport :
    let late := [ClientAct.connect, .resume 0 .usable ⟨true, true, true⟩,
      .socketConnect 0 ⟨true, true, true⟩, .close, .message 0 registerResponse].foldl step initial
    let nested := [ClientAct.connect, .call .shutdownDaemon (.obj []) false ⟨true, true, true⟩,
      .socketConnect 0 ⟨true, true, true⟩, .message 0 registerResponse,
      .resume 1 .usable ⟨true, true, true⟩,
      .sendRpc .shutdownDaemon ⟨true, true, true⟩,
      .resume 0 .usable ⟨true, true, true⟩].foldl step initial
    let newer :=
      [ClientAct.socketConnect 1 ⟨true, true, true⟩, .message 1 registerResponse].foldl step nested
    (late.closed = true ∧ late.status = .connected ∧ late.controlTransport = none ∧
      .connected ∈ late.events) ∧
    (nested.status = .connected ∧ nested.controlTransport = some 1 ∧
      (nested.transports 1).handshake = .pending) ∧
    (newer.status = .connected ∧ newer.controlTransport = some 1 ∧ (newer.transports 1).Registered ∧
      (newer.step (.closeEvent 0)).controlTransport = none ∧
      (newer.step (.closeEvent 0)).settlements =
        [(1, .rejected none "Multiplexer control socket closed")]) := by
  decide +kernel

end DaemonClient

end DebugRouter.Client
