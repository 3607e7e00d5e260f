import DebugRouter.Daemon.QueryView
import DebugRouter.Daemon.RouteTimers
import DebugRouter.Daemon.Routing

/-!
The Host's two tables with their timers, and the one method that uses both. The other methods reach
the tables by a single call each; those calls, the timers and the clock are acts, in any order and
with any registry.
-/
namespace DebugRouter.Daemon

open Library QueryTable

structure HostTables where
  pendingRoutes : RouteTable
  memoizedQueryTable : QueryTable

structure TablesSent where
  tables : HostTables
  outputs : List Output
  error : Option RpcError

inductive TableAct where
  | send (r : Registry) (clientId : Int) (message : OutboundMessage) (target : Target)
      (sendFails : Bool)
  | take (globalMessageId : Nat)
  | recordNotification (clientId : Int) (message : String) (parsedValue : Json)
  | forgetRuntime (clientId : Int)
  | clearByControlId (controlId : Nat)
  | clearByWebClientId (webClientId : Int)
  | clear
  | routeTimer (timer : Nat)
  | retryTimer (timer : Nat) (retried : Bool)
  | tick (elapsed : Nat)

def targetDriverOutputs (r : Registry) (target : Target) (clientId : Int) (message : String)
    (parsedValue : Json) :
    List Output :=
  match target.requester, target.promise with
  | .control id, some promise =>
    [.settled id promise (.ok (normalizeRawResponse parsedValue clientId))]
  | .control id, none =>
    let source := if r.appClients.has clientId then .websocketRuntime else .usbRuntime
    r.sendToControl id (.clientMessage source clientId message)
  | .webSocket id, _ => r.sendMessageToWebClient id message

namespace HostTables
variable (s : HostTables)

def initial (start : Nat) : HostTables := ⟨.empty, .new MemoizedQueryTable.definitions 1000 start⟩

def rewriteOutboundMessageData (data : Json) (clientId : Int) (target : Target) :
    HostTables × Json × Option TimedRoute :=
  match getRoutableCustomizedPayload data with
  | none => (s, data, none)
  | some (payload, originalId) =>
    let (pendingRoutes, route) :=
      s.pendingRoutes.add ⟨target.requester, clientId, originalId, target.promise⟩
    ({ s with pendingRoutes := pendingRoutes }, writeMessageId data payload route.globalMessageId,
      some route)

def forward (data : Json) (clientId : Int) (target : Target) (requestType : Option String)
    (sendFails : Bool) :
    TablesSent :=
  let (s, data, route) := s.rewriteOutboundMessageData data clientId target
  if sendFails then
    let queries :=
      requestType.elim s.memoizedQueryTable (s.memoizedQueryTable.handleSendFailure clientId)
    let routes :=
      route.elim s.pendingRoutes fun route => (s.pendingRoutes.take route.globalMessageId).1
    ⟨⟨routes, queries⟩, [], some (rpcFailed "send failed")⟩
  else
    let queries := requestType.elim s.memoizedQueryTable
      (s.memoizedQueryTable.setRetryTimer clientId · (cloneJsonValue data))
    ⟨⟨s.pendingRoutes, queries⟩, [.runtime clientId data], none⟩

def sendMessageToRuntime (r : Registry) (clientId : Int) (message : OutboundMessage) (target : Target)
    (sendFails : Bool) : TablesSent :=
  let isWebSocket := r.appClients.has clientId
  if isWebSocket || r.usbClients.has clientId then
    match message.decode with
    | none => ⟨s, [], some invalidJsonMessage⟩
    | some data =>
      if isLegacyHandshake data then ⟨s, [], none⟩
      else
        let data := rewriteClientId data (if isWebSocket then clientId else -1)
        let (queries, decision) := s.memoizedQueryTable.query clientId data
        let s := { s with memoizedQueryTable := queries }
        match decision with
        | .cached message parsedValue =>
          ⟨s, targetDriverOutputs r target clientId message parsedValue, none⟩
        | .pending => ⟨s, [], none⟩
        | .notMemoized => s.forward data clientId target none sendFails
        | .forward requestType => s.forward data clientId target (some requestType) sendFails
  else ⟨s, [], some (clientNotFound clientId)⟩

def step : TableAct → HostTables
  | .send r clientId message target sendFails =>
    (s.sendMessageToRuntime r clientId message target sendFails).tables
  | .take globalMessageId => { s with pendingRoutes := (s.pendingRoutes.take globalMessageId).1 }
  | .recordNotification clientId message parsedValue =>
    { s with
      memoizedQueryTable := s.memoizedQueryTable.recordNotification clientId message parsedValue }
  | .forgetRuntime clientId =>
    ⟨(s.pendingRoutes.clearByClientId clientId).1, s.memoizedQueryTable.clearClient clientId⟩
  | .clearByControlId controlId =>
    { s with pendingRoutes := (s.pendingRoutes.clearByControlId controlId).1 }
  | .clearByWebClientId webClientId =>
    { s with pendingRoutes := (s.pendingRoutes.clearByWebClientId webClientId).1 }
  | .clear => ⟨s.pendingRoutes.clear.1, s.memoizedQueryTable.clear⟩
  | .routeTimer timer => { s with pendingRoutes := (s.pendingRoutes.onTimer timer).1 }
  | .retryTimer timer retried =>
    { s with memoizedQueryTable := s.memoizedQueryTable.onRetryTimer timer retried }
  | .tick elapsed => { s with memoizedQueryTable := s.memoizedQueryTable.step (.tick elapsed) }

/- The queries stay sound -/

variable {s} {r : Registry} {cid : Int} {msg : OutboundMessage} {tgt : Target} {fails : Bool}

theorem memoizedQueryTable_rewrite (s : HostTables) (d : Json) (cid : Int) (tgt : Target) :
    (s.rewriteOutboundMessageData d cid tgt).1.memoizedQueryTable = s.memoizedQueryTable := by
  unfold rewriteOutboundMessageData
  split <;> rfl

variable {ty : Option String}

theorem sound_forward {d : Json} (hs : s.memoizedQueryTable.Sound)
    (hw : ∀ type retry, ty = some type →
      s.memoizedQueryTable.AfterForward (.setRetryTimer cid type retry)) :
    (s.forward d cid tgt ty fails).tables.memoizedQueryTable.Sound := by
  unfold forward
  dsimp only
  rw [memoizedQueryTable_rewrite]
  split
  · cases ty with
    | none => exact hs
    | some type => exact (drops_clearPending hs cid type).1.sound
  · cases ty with
    | none => exact hs
    | some type =>
      obtain ⟨o, hh, hu⟩ := hw type (cloneJsonValue (s.rewriteOutboundMessageData d cid tgt).2.1) rfl
      exact (armed_setRetryTimer hh hu _).1.sound hs hh

inductive Dispatched (s : HostTables) (r : Registry) (clientId : Int) (message : OutboundMessage)
    (target : Target) (sendFails : Bool) : TablesSent → Prop
  | unknown (gone : (r.appClients.has clientId || r.usbClients.has clientId) = false) :
      Dispatched s r clientId message target sendFails ⟨s, [], some (clientNotFound clientId)⟩
  | unreadable (failed : message.decode = none) :
      Dispatched s r clientId message target sendFails ⟨s, [], some invalidJsonMessage⟩
  | ignored : Dispatched s r clientId message target sendFails ⟨s, [], none⟩
  | cached (value : Json) {text : String} {parsedValue : Json}
      (decided : (s.memoizedQueryTable.query clientId value).2 = .cached text parsedValue) :
      Dispatched s r clientId message target sendFails
        ⟨⟨s.pendingRoutes, (s.memoizedQueryTable.query clientId value).1⟩,
          targetDriverOutputs r target clientId text parsedValue, none⟩
  | pending (value : Json) (decided : (s.memoizedQueryTable.query clientId value).2 = .pending) :
      Dispatched s r clientId message target sendFails
        ⟨⟨s.pendingRoutes, (s.memoizedQueryTable.query clientId value).1⟩, [], none⟩
  | forwarded (data : Json) (known : (r.appClients.has clientId || r.usbClients.has clientId) = true)
      (decoded : message.decode = some data) (value : Json)
      (renamed : value = rewriteClientId data (if r.appClients.has clientId then clientId else -1))
      (requestType : Option String)
      (decided : (s.memoizedQueryTable.query clientId value).2 =
        requestType.elim .notMemoized .forward) :
      Dispatched s r clientId message target sendFails
        (HostTables.forward ⟨s.pendingRoutes, (s.memoizedQueryTable.query clientId value).1⟩ value
          clientId target
          requestType sendFails)

theorem dispatched_toRuntime (s : HostTables) (r : Registry) (cid : Int) (msg : OutboundMessage)
    (tgt : Target) (fails : Bool) :
    Dispatched s r cid msg tgt fails
      (s.sendMessageToRuntime r cid msg tgt fails) := by
  unfold sendMessageToRuntime
  dsimp only
  split
  next hk =>
    split
    next hf => exact .unreadable hf
    next d hde =>
      split
      · exact .ignored
      · split
        next hd => exact .cached _ hd
        next hd => exact .pending _ hd
        next hd => exact .forwarded d hk hde _ rfl none hd
        next ty hd => exact .forwarded d hk hde _ rfl (some ty) hd
  next hg => exact .unknown (Bool.eq_false_iff.mpr hg)

theorem sound_toRuntime (h : s.memoizedQueryTable.Sound) :
    (s.sendMessageToRuntime r cid msg tgt fails).tables.memoizedQueryTable.Sound := by
  have ha := fun v => (follows_query h cid v).sound
  have hd := dispatched_toRuntime s r cid msg tgt fails
  generalize s.sendMessageToRuntime r cid msg tgt fails = sent at hd
  cases hd with
  | unknown | unreadable | ignored => exact h
  | cached v | pending v => exact ha v
  | forwarded d hk hh v hr ty hde =>
    refine sound_forward (ha v) fun type retry hs => ?_
    subst hs
    exact afterForward_query h hde retry

theorem sound_step (s : HostTables) (act : TableAct) (h : s.memoizedQueryTable.Sound) :
    (s.step act).memoizedQueryTable.Sound := by
  have hq : ∀ act, s.memoizedQueryTable.AfterForward act → (s.memoizedQueryTable.step act).Sound :=
    fun act ha => (follows_step h ha).sound
  cases act with
  | send r cid msg tgt fails => exact sound_toRuntime h
  | take | clearByControlId | clearByWebClientId | routeTimer => exact h
  | recordNotification cid msg val => exact hq (.recordNotification cid msg val) trivial
  | forgetRuntime cid => exact hq (.clearClient cid) trivial
  | clear => exact hq .clear trivial
  | retryTimer timer retried => exact hq (.fire timer retried) trivial
  | tick el => exact hq (.tick el) trivial

theorem sound_run (start : Nat) (acts : List TableAct) :
    (acts.foldl step (initial start)).memoizedQueryTable.Sound :=
  invariant_foldl sound_step (sound_new ..) acts

end HostTables

end DebugRouter.Daemon
