import DebugRouter.Client.DaemonClient
import DebugRouter.Daemon.ControlServer
import DebugRouter.Transport.Reception

/-!
The two ends of a control connection while it changes hands: `registerTransport` gives the client's
transport to `handleTransportMessage`, and `handleSocket` gives the server's to a
`MultiplexerControlConnection`. Both do it in a callback that runs inside the loop of `parseFrames`.
-/
namespace DebugRouter.Daemon

open Library Protocol Transport Client Json DaemonClient

structure Reception (S : Type) where
  state : S
  handshake : List Json
  steady : List Json

def Reception.new {S : Type} (state : S) : Reception S := ⟨state, [], []⟩

def Reception.act {S A : Type} (step : S → A → S) (r : Reception S) (act : A) : Reception S :=
  { r with state := step r.state act }

/- The client -/

def clientListener (c : DaemonClient) (t : TransportId) : Option Client.Listener :=
  if (c.transports t).destroyed then none else (c.transports t).messageListener

def clientEnd (t : TransportId) : Transport.Listener (Reception DaemonClient) where
  hear := fun r message =>
    let listener := clientListener r.state t
    { state := r.state.onMessage t message
      handshake := if listener = some .handshake then r.handshake ++ [message] else r.handshake
      steady := if listener = some .client then r.steady ++ [message] else r.steady }
  stopped := fun r => if (r.state.transports t).destroyed then some none else none

/-- The handshake listener waits for its one message, or has handed on. -/
def ClientAt (t : TransportId) : List Json → Reception DaemonClient → Prop
  | [], r => clientListener r.state t = some .handshake ∧ r.handshake = [] ∧ r.steady = []
  | first :: rest, r =>
    clientListener r.state t = some .client ∧ (r.state.transports t).timer = false ∧
    r.handshake = [first] ∧ r.steady = rest

variable {t : TransportId} {req : Json}

theorem open_of_clientListener {c : DaemonClient} {listener : Client.Listener}
    (h : clientListener c t = some listener) :
    (c.transports t).destroyed = false ∧ (c.transports t).messageListener = some listener := by
  unfold clientListener at h
  split at h
  · cases h
  next hl => exact ⟨by simpa using hl, h⟩

variable (c : DaemonClient)

theorem transports_transportMessage (v : Json) :
    (c.handleTransportMessage v).transports = c.transports := by
  unfold handleTransportMessage handleRpcResponse
  split
  · split <;> rfl
  · rfl

theorem clientListener_registered (t : TransportId) (h : (c.transports t).destroyed = false) :
    clientListener (c.registered t) t = some .client ∧
    ((c.registered t).transports t).timer = false := by
  simp [clientListener, registered, settleHandshake, update, h]

def registerResponse : Json := .obj [("kind", .str "register-response"), ("ok", .bool true)]

theorem course_clientEnd (t : TransportId) (msgs : List Json) :
    Transport.Course (clientEnd t) (registerResponse.normalize :: msgs) (ClientAt t) where
  hears := by
    intro heard msg later r split hh
    cases heard with
    | nil =>
      cases split
      obtain ⟨hi, hu, hq⟩ := hh
      obtain ⟨hl, listener⟩ := open_of_clientListener hi
      have hha : r.state.onMessage t registerResponse.normalize = r.state.registered t := by
        rw [onMessage, hl, listener]
        rfl
      have after := clientListener_registered r.state t hl
      simp only [clientEnd, hi, hha, hu, hq]
      exact ⟨after.1, after.2, rfl, rfl⟩
    | cons first rest =>
      obtain ⟨hi, ht, one, ho⟩ := hh
      obtain ⟨hl, listener⟩ := open_of_clientListener hi
      have hha : (r.state.onMessage t msg).transports = r.state.transports := by
        rw [onMessage, hl, listener]
        exact transports_transportMessage r.state msg
      have same : clientListener (r.state.onMessage t msg) t = clientListener r.state t := by
        rw [clientListener, clientListener, hha]
      refine ⟨same.trans hi, (by rw [← ht, ← hha]; rfl), ?_, ?_⟩
      · simp [clientEnd, hi, one]
      · simp [clientEnd, hi, ho]
  goes := by
    intro heard r hh
    have hi : ∃ listener, clientListener r.state t = some listener := by
      cases heard with
      | nil | cons first rest => exact ⟨_, hh.1⟩
    obtain ⟨listener, hi⟩ := hi
    simp [clientEnd, (open_of_clientListener hi).1]

/- The server -/

inductive SocketListener where
  | handshake
  | connection (controlId : Nat)
  deriving DecidableEq

structure ServerSocket where
  server : ControlServer
  messageListener : Option SocketListener
  receivedFirstMessage : Bool
  handshakeTimer : Bool
  destroyed : Bool
  writable : Bool

inductive SocketAct where
  /-- Something else that happens to the server, with or without this connection. -/
  | server (act : ServerAct)
  | handshakeTimeout
  /-- `transport.end()` of a provisional transport, when the server stops. -/
  | endTransport
  | destroy

namespace ServerSocket
variable (s : ServerSocket)

def handleSocket (server : ControlServer) : ServerSocket :=
  ⟨server, some .handshake, false, true, false, true⟩

/-- `transport.send`, and whether it was accepted; `writes` is a write that does not throw. -/
def send (writes : Bool) : ServerSocket × Bool :=
  if s.destroyed = false ∧ s.writable = true ∧ writes = true then (s, true)
  else ({ s with destroyed := true }, false)

def endTransport : ServerSocket := if s.destroyed then s else { s with writable := false }

def registerConnection : ServerSocket :=
  { s with
    server := s.server.registerConnection
    messageListener := some (.connection s.server.nextControlId) }

/-- The listener that `handleSocket` installs. It takes itself off before it looks at the message. -/
def onFirstMessage (writes : Bool) (message : Json) : ServerSocket :=
  if s.receivedFirstMessage then s
  else
    let s := { s with receivedFirstMessage := true, handshakeTimer := false, messageListener := none }
    if isMultiplexerHealthRequest message then (s.send writes).1.endTransport
    else if isMultiplexerRegisterRequest message then
      match s.send writes with
      | (s, false) => s
      | (s, true) => s.registerConnection
    else (s.send writes).1.endTransport

def onMessage (writes : Bool) (debugInfo : Option Json) (message : Json) : ServerSocket :=
  match s.messageListener with
  | none => s
  | some .handshake => s.onFirstMessage writes message
  | some (.connection controlId) =>
    { s with server := s.server.handleTransportMessage controlId message debugInfo }

def unsubscribed (before : ControlServer) : Option SocketListener :=
  match s.messageListener with
  | some (.connection controlId) =>
    if s.server.closed controlId && !before.closed controlId then none else s.messageListener
  | listener => listener

def step (writes : Bool) : SocketAct → ServerSocket
  | .server act =>
    let after := { s with server := s.server.step act }
    { after with messageListener := after.unsubscribed s.server }
  | .handshakeTimeout =>
    if s.handshakeTimer then
      ({ s with handshakeTimer := false, messageListener := none }.send writes).1.endTransport
    else s
  | .endTransport => s.endTransport
  | .destroy => { s with destroyed := true }

end ServerSocket

def connectionOf (s : ServerSocket) : Option Nat :=
  match s.messageListener with
  | some (.connection controlId) => if s.server.closed controlId then none else some controlId
  | _ => none

def serverEnd (writes : Bool) (debugInfo : Option Json) :
    Transport.Listener (Reception ServerSocket) where
  hear := fun r message =>
    { state := r.state.onMessage writes debugInfo message
      handshake := if r.state.messageListener = some .handshake then r.handshake ++ [message]
      else r.handshake
      steady := if (connectionOf r.state).isSome then r.steady ++ [message] else r.steady }
  stopped := fun r => if r.state.destroyed then some none else none

/-- The handshake listener waits for the first message, or a connection has taken its place. -/
def ServerAt : List Json → Reception ServerSocket → Prop
  | [], r => r.state.messageListener = some .handshake ∧ r.state.receivedFirstMessage = false ∧
    r.state.destroyed = false ∧ r.state.writable = true ∧ r.handshake = [] ∧ r.steady = []
  | first :: rest, r => (connectionOf r.state).isSome = true ∧ r.state.handshakeTimer = false ∧
    r.state.destroyed = false ∧ r.handshake = [first] ∧ r.steady = rest

theorem closed_transportMessage (srv : ControlServer) (ctrl : Nat) (msg : Json)
    (dbg : Option Json) :
    (srv.handleTransportMessage ctrl msg dbg).closed = srv.closed := by
  unfold ControlServer.handleTransportMessage ControlServer.sendError ControlServer.send
  dsimp only
  split
  · rfl
  split
  · rfl
  split <;> rfl

theorem course_serverEnd (dbg : Option Json)
    (hp : isMultiplexerHealthRequest req = false)
    (hr : isMultiplexerRegisterRequest req = true)
    (msgs : List Json) : Transport.Course (serverEnd true dbg) (req :: msgs) ServerAt where
  hears := by
    intro heard msg later r split hhe
    cases heard with
    | nil =>
      cases split
      obtain ⟨hi, x, hl, hw, hu, hq⟩ := hhe
      have hh : r.state.onMessage true dbg req =
          { r.state with
            receivedFirstMessage := true, handshakeTimer := false,
            messageListener := none }.registerConnection := by
        simp [ServerSocket.onMessage, hi, ServerSocket.onFirstMessage, x, hp, hr,
          ServerSocket.send, hl, hw]
      have idle : connectionOf r.state = none := by rw [connectionOf, hi]
      simp only [serverEnd, hi, hh, idle, hu, hq]
      refine ⟨?_, rfl, hl, rfl, rfl⟩
      simp [connectionOf, ServerSocket.registerConnection, ControlServer.registerConnection]
    | cons x xs =>
      obtain ⟨hc, ht, hl, one, ho⟩ := hhe
      obtain ⟨ctrl, hf⟩ := Option.isSome_iff_exists.mp hc
      have hi : r.state.messageListener = some (.connection ctrl) := by
        unfold connectionOf at hf
        split at hf
        next id hli =>
          split at hf
          · cases hf
          · cases hf
            exact hli
        · cases hf
      have hh : r.state.onMessage true dbg msg =
          { r.state with server := r.state.server.handleTransportMessage ctrl msg dbg } := by
        simp only [ServerSocket.onMessage, hi]
      have same : connectionOf (r.state.onMessage true dbg msg) = connectionOf r.state := by
        rw [hh]
        unfold connectionOf
        rw [closed_transportMessage]
      refine ⟨?_, ?_, ?_, ?_, ?_⟩
      · exact (congrArg Option.isSome same).trans hc
      · exact (congrArg ServerSocket.handshakeTimer hh).trans ht
      · exact (congrArg ServerSocket.destroyed hh).trans hl
      · simp [serverEnd, hi, one]
      · simp [serverEnd, hc, ho]
  goes := by
    intro heard r hhe
    have hl : r.state.destroyed = false := by
      cases heard with
      | nil | cons x xs => exact hhe.2.2.1
    simp [serverEnd, hl]

/- Whole streams -/

/-- The most that a chunk may hold beside the longest frame. A socket reads far less at a time. -/
def chunkLimit : Nat := defaultOption.maxBufferSize - frameHeaderSize - defaultOption.maxFrameSize

/-- Whatever else the client does leaves this transport as it is. -/
def ClientCalm (t : TransportId) (e : Endpoint (Reception DaemonClient)) : Arrival ClientAct → Prop
  | .data chunk => chunk.length ≤ chunkLimit
  | .act act => (e.listener.state.step act).transports t = e.listener.state.transports t

/-- Whatever else the server does leaves this socket and its connection as they are. -/
def ServerCalm (e : Endpoint (Reception ServerSocket)) : Arrival SocketAct → Prop
  | .data chunk => chunk.length ≤ chunkLimit
  | .act act =>
    let after := e.listener.state.step true act
    after = { e.listener.state with server := after.server } ∧
      connectionOf after = connectionOf e.listener.state

theorem small_of_limit {ck : List UInt8} (h : ck.length ≤ chunkLimit) :
    ck.length + frameHeaderSize + defaultOption.maxFrameSize ≤ defaultOption.maxBufferSize := by
  have limit : chunkLimit + (frameHeaderSize + defaultOption.maxFrameSize) =
    defaultOption.maxBufferSize := by decide
  omega

theorem ClientCalm.calm {e : Endpoint (Reception DaemonClient)} {arrival : Arrival ClientAct}
    (h : ClientCalm t e arrival) :
    e.Calm defaultOption (ClientAt t) (Reception.act step) arrival := by
  cases arrival with
  | data ck => exact small_of_limit h
  | act act =>
    intro heard hh
    have same : clientListener (e.listener.state.step act) t = clientListener e.listener.state t := by
      rw [clientListener, clientListener, h]
    cases heard with
    | nil => exact ⟨same.trans hh.1, hh.2⟩
    | cons x xs => exact ⟨same.trans hh.1, (congrArg Client.Transport.timer h).trans hh.2.1, hh.2.2⟩

theorem ServerCalm.calm {e : Endpoint (Reception ServerSocket)} {arrival : Arrival SocketAct}
    (h : ServerCalm e arrival) :
    e.Calm defaultOption ServerAt (Reception.act (ServerSocket.step · true)) arrival := by
  cases arrival with
  | data ck => exact small_of_limit h
  | act act =>
    obtain ⟨hs, hc⟩ := h
    change ∀ heard, ServerAt heard e.listener →
      ServerAt heard { e.listener with state := e.listener.state.step true act }
    generalize e.listener.state.step true act = after at hs hc
    obtain ⟨srv, lis, x, timer, destroyed, writable⟩ := after
    simp only [ServerSocket.mk.injEq, true_and] at hs
    obtain ⟨rfl, rfl, rfl, rfl, rfl⟩ := hs
    intro heard hh
    cases heard with
    | nil => exact hh
    | cons one xs => exact ⟨(congrArg Option.isSome hc).trans hh.1, hh.2⟩

theorem plain_of_registers (h : isMultiplexerRegisterRequest req = true) :
    isMultiplexerHealthRequest req = false := by
  simp only [isMultiplexerRegisterRequest, Bool.and_eq_true] at h
  have hk := h.1.1.1.2
  unfold required at hk
  cases hf : req.get? "kind" with
  | none =>
    rw [hf] at hk
    cases hk
  | some v =>
    rw [hf] at hk
    have text : v = .str "register" := by
      cases v with
      | str text => simpa [isText] using hk
      | null | bool _ | num _ | arr _ | obj _ => cases hk
    simp [isMultiplexerHealthRequest, required, hf, text, isText]

def written (messages : List Json) : List UInt8 :=
  messages.flatMap fun message => (send defaultOption message).getD []

/-- However the two streams are cut, and whatever happens in between without closing the connection:
what the server writes after the register response is handled once and in order by the client's own
handler, what the client writes after its register request by the server's connection, and each
handshake listener hears one message. -/
theorem hand_over_loses_nothing (c : DaemonClient) (t : TransportId)
    (waiting : clientListener c t = some .handshake)
    (frames : List Json) (framesFit : ∀ message ∈ frames, Sendable defaultOption message)
    (arrivals : List (Arrival ClientAct))
    (down : Transport.received arrivals = written (registerResponse :: frames))
    (clientCalm : Along (Endpoint.arrive (clientEnd t) defaultOption (Reception.act step))
      (ClientCalm t)
      (.initial (.new c)) arrivals)
    (server : ControlServer) (debugInfo : Option Json) (request : Json)
    (registers : isMultiplexerRegisterRequest request.normalize = true) (rpcs : List Json)
    (rpcsFit : ∀ message ∈ request :: rpcs, Sendable defaultOption message)
      (arrivals' : List (Arrival SocketAct))
    (up : Transport.received arrivals' = written (request :: rpcs))
    (serverCalm : Along (Endpoint.arrive (serverEnd true debugInfo) defaultOption
      (Reception.act (ServerSocket.step · true))) ServerCalm
        (.initial (.new (.handleSocket server))) arrivals') :
    let client := arrivals.foldl (Endpoint.arrive (clientEnd t) defaultOption (Reception.act step))
      (.initial (.new c))
    let daemon := arrivals'.foldl (Endpoint.arrive (serverEnd true debugInfo) defaultOption
      (Reception.act (ServerSocket.step · true))) (.initial (.new (.handleSocket server)))
    (client.closed = false ∧ client.listener.handshake = [registerResponse] ∧
      client.listener.steady = frames.map normalize) ∧
    daemon.closed = false ∧ daemon.listener.handshake = [request.normalize] ∧
      daemon.listener.steady = rpcs.map normalize := by
  have fits : defaultOption.maxFrameSize < 2 ^ 32 := by decide
  have hr : Sendable defaultOption registerResponse := by
    unfold Sendable
    decide +kernel
  have same : registerResponse.normalize = registerResponse := by decide +kernel
  constructor
  · obtain ⟨open', at'⟩ := Endpoint.hears_stream fits (course_clientEnd t (frames.map normalize))
      (List.forall_mem_cons.mpr ⟨hr, framesFit⟩) ⟨waiting, rfl, rfl⟩ down
      (along_mono (fun _ _ => ClientCalm.calm) clientCalm)
    exact ⟨open', at'.2.2.1.trans (by rw [same]), at'.2.2.2⟩
  · obtain ⟨open', at'⟩ := Endpoint.hears_stream fits
      (course_serverEnd debugInfo (plain_of_registers registers) registers (rpcs.map normalize))
      rpcsFit ⟨rfl, rfl, rfl, rfl, rfl, rfl⟩ up (along_mono (fun _ _ => ServerCalm.calm) serverCalm)
    exact ⟨open', at'.2.2.2.1, at'.2.2.2.2⟩

def cutAt (n : Nat) (messages : List Json) {A : Type} : List (Arrival A) :=
  [.data ((written messages).take n), .data ((written messages).drop n)]

theorem received_cutAt (n : Nat) (messages : List Json) {A : Type} :
    Transport.received (cutAt n messages : List (Arrival A)) = written messages := by
  simp [Transport.received, cutAt, Arrival.chunk]

theorem first_frames_handed_over :
    let c := { initial with transports := fun _ => .created }
    let request : Json := .obj [("kind", .str "register"), ("reportServiceEnabled", .bool false)]
    let client := (cutAt 60 [registerResponse, ofInt 7]).foldl
      (Endpoint.arrive (clientEnd 0) defaultOption (Reception.act step)) (.initial (.new c))
    let daemon :=
      (cutAt 0 [request, ofInt 7]).foldl (Endpoint.arrive (serverEnd true none) defaultOption
      (Reception.act (ServerSocket.step · true))) (.initial (.new (.handleSocket .initial)))
    (client.closed = false ∧ client.listener.handshake = [registerResponse] ∧
      client.listener.steady = [ofInt 7].map normalize) ∧
    daemon.closed = false ∧ daemon.listener.handshake = [request.normalize] ∧
      daemon.listener.steady = [ofInt 7].map normalize := by
  intro c request
  have seven : ∀ message ∈ [ofInt 7], Sendable defaultOption message := by
    rw [List.forall_mem_singleton]
    unfold Sendable
    decide +kernel
  have hr : isMultiplexerRegisterRequest request.normalize = true := by decide +kernel
  have hre : Sendable defaultOption request := by
    unfold Sendable
    decide +kernel
  have short : ∀ n, ∀ messages : List Json, (written messages).length ≤ chunkLimit →
      ((written messages).take n).length ≤ chunkLimit ∧
        ((written messages).drop n).length ≤ chunkLimit := by
    intro n messages hf
    rw [List.length_take, List.length_drop]
    omega
  have down := short 60 [registerResponse, ofInt 7] (by decide +kernel)
  have up := short 0 [request, ofInt 7] (by decide +kernel)
  exact hand_over_loses_nothing c 0 rfl [ofInt 7] seven _ (received_cutAt 60 _)
    ⟨down.1, down.2, trivial⟩
    .initial none request hr [ofInt 7] (List.forall_mem_cons.mpr ⟨hre, seven⟩) _
    (received_cutAt 0 _) ⟨up.1, up.2, trivial⟩

end DebugRouter.Daemon
