import DebugRouter.Client.Connection
import DebugRouter.Daemon.ControlServer

/-!
The life of an RPC: the table of pending RPCs with its timers on the side of the client, and the
calls of `dispatchRpc` on the side of the server.
-/
namespace DebugRouter.Client

open Library Protocol List OrderedMap DaemonClient

def Outcome.isError : Outcome → Prop
  | .resolved _ => False
  | .rejected _ _ => True

namespace DaemonClient

def settled (c : DaemonClient) : List Int := c.settlements.map Prod.fst

/-- The table holds the RPCs sent and not settled, each with its timer, and no RPC is settled
twice. -/
structure Bookkept (c : DaemonClient) : Prop where
  first : 1 ≤ c.nextRpcId
  issued : ∀ id ∈ c.settled, 1 ≤ id ∧ id < c.nextRpcId
  pending : ∀ id, id ∈ c.pendingRpc.keys ↔ (1 ≤ id ∧ id < c.nextRpcId) ∧ id ∉ c.settled
  timers : c.timers = c.pendingRpc.keys
  once : c.settled.Nodup

/-- `sendRpc` of a connected client without a transport. -/
def SendsToNull (c : DaemonClient) : ClientAct → Prop
  | .sendRpc _ _ => c.closed = false ∧ c.status = .connected ∧ c.controlTransport = none
  | _ => False

/-- The response a step takes for a pending RPC: it is well formed and carries the id of the RPC. -/
def heard (c : DaemonClient) : ClientAct → Option (Int × ControlRpcMethod × Json)
  | .message t value =>
    if (c.transports t).destroyed = false ∧ (c.transports t).messageListener = some .client ∧
        isControlRpcResponseTo none value = true then
      (c.awaited value).map fun entry => (entry.1, entry.2, value)
    else none
  | _ => none

/-- The first response of a run that an RPC gets while it is pending, with the method it was sent
for. -/
def answerTo (id : Int) : DaemonClient → List ClientAct → Option (ControlRpcMethod × Json)
  | _, [] => none
  | c, act :: rest =>
    match c.heard act with
    | none => answerTo id (c.step act) rest
    | some (answered, method, response) =>
      if answered = id then some (method, response) else answerTo id (c.step act) rest

/- What a step does to the RPCs -/

variable {c : DaemonClient}

structure SameRpcs (c c' : DaemonClient) : Prop where
  next : c'.nextRpcId = c.nextRpcId
  pending : c'.pendingRpc = c.pendingRpc
  timers : c'.timers = c.timers
  settlements : c'.settlements = c.settlements

theorem SameRpcs.refl (c : DaemonClient) : SameRpcs c c := ⟨rfl, rfl, rfl, rfl⟩

variable {c' : DaemonClient} {act : ClientAct} {id : Int} {method : ControlRpcMethod}
  {resp : Json} {acts : List ClientAct}

theorem SameRpcs.settle (h : SameRpcs c c') (id : Int) (out : Outcome) :
    SameRpcs (c.settle id out) (c'.settle id out) := by
  refine ⟨h.next, ?_, ?_, ?_⟩
  · simp [DaemonClient.settle, h.pending]
  · simp [DaemonClient.settle, h.timers]
  · simp [DaemonClient.settle, h.settlements]

def enter (c : DaemonClient) (method : ControlRpcMethod) : DaemonClient :=
  { c with
    nextRpcId := c.nextRpcId + 1
    pendingRpc := c.pendingRpc.set c.nextRpcId method
    timers := c.timers ++ [c.nextRpcId] }

inductive RpcMove (c : DaemonClient) (act : ClientAct) (c' : DaemonClient) : Prop
  | idle (unheard : c.heard act = none) (same : SameRpcs c c')
  | answered {id : Int} {method : ControlRpcMethod} {response : Json}
      (heard : c.heard act = some (id, method, response))
      (same : SameRpcs (c.settle id (responseOutcome method response)) c')
  | timedOut {id : Int} {message : String} (unheard : c.heard act = none) (armed : id ∈ c.timers)
      (same : SameRpcs (c.settle id (.rejected none message)) c')
  | cleared (error : String) (unheard : c.heard act = none)
      (same : SameRpcs (c.rejectAllPendingRpc error) c')
  | sent {method : ControlRpcMethod} (unheard : c.heard act = none) (held : ¬ c.SendsToNull act)
      (same : SameRpcs (c.enter method) c')
  | refused {method : ControlRpcMethod} {message : String} (unheard : c.heard act = none)
      (held : ¬ c.SendsToNull act)
      (same : SameRpcs ((c.enter method).settle c.nextRpcId (.rejected none message)) c')
  | lost {method : ControlRpcMethod} {name : Option String} {message : String}
      (unheard : c.heard act = none)
      (null : c.SendsToNull act)
      (same : SameRpcs { c.enter method with
        settlements := c.settlements ++ [(c.nextRpcId, .rejected name message)] } c')

theorem SameRpcs.closeSocket (h : SameRpcs c c') (err : String) :
    SameRpcs (c.rejectAllPendingRpc err) (c'.closeSocket err).1 := by
  rw [closeSocket_eq, rejectAll_eq]
  refine ⟨h.next, rfl, ?_, ?_⟩
  · simp [h.timers, h.pending]
  · simp [h.settlements, h.pending]

theorem FlowMove.rpcMove (hm : FlowMove c c') (hu : c.heard act = none) : RpcMove c act c' := by
  cases hm with
  | waited | opened => exact .idle hu ⟨rfl, rfl, rfl, rfl⟩
  | replaced err =>
    have hs := (SameRpcs.refl c).closeSocket err
    exact .cleared err hu ⟨hs.next, hs.pending, hs.timers, hs.settlements⟩

variable (t : TransportId)

theorem send_sameRpcs (luck : Luck) : SameRpcs c (c.send t luck).1 := by
  unfold send
  split_ifs <;> exact ⟨rfl, rfl, rfl, rfl⟩

theorem onConnect_sameRpcs (luck : Luck) : SameRpcs c (c.onConnect t luck) := by
  unfold onConnect
  split
  · have hs := send_sameRpcs (c := c) t luck
    split
    next hw =>
      rw [hw] at hs
      exact hs
    next hw =>
      rw [hw] at hs
      split
      · exact hs
      · exact ⟨hs.next, hs.pending, hs.timers, hs.settlements⟩
  · exact .refl c

theorem sendRpc_move (method : ControlRpcMethod) (luck : Luck) :
    RpcMove c (.sendRpc method luck) (c.sendRpc method luck) := by
  unfold sendRpc
  split
  · exact .idle rfl (.refl c)
  next ha =>
    rw [not_or, not_not] at ha
    dsimp only
    split
    next hm => exact .lost rfl ⟨by simpa using ha.1, ha.2, hm⟩ (.refl _)
    next t hc =>
      have hh : ¬ c.SendsToNull (.sendRpc method luck) := fun hn => by simp [hn.2.2] at hc
      have hs := send_sameRpcs (c := c.enter method) t luck
      split
      next hw =>
        change (c.enter method).send t luck = _ at hw
        rw [hw] at hs
        exact .sent rfl hh hs
      next hw =>
        change (c.enter method).send t luck = _ at hw
        rw [hw] at hs
        exact .refused rfl hh (hs.settle _ _)

theorem onMessage_move (v : Json) : RpcMove c (.message t v) (c.onMessage t v) := by
  unfold onMessage
  split
  next hde => exact .idle (by simp [heard, hde]) (.refl c)
  next hli =>
    split
    next hd => exact .idle (by simp [heard, hd]) (.refl c)
    next hh =>
      refine .idle (by simp [heard, hh]) ?_
      unfold onHandshakeMessage
      split_ifs <;> exact ⟨rfl, rfl, rfl, rfl⟩
    next hl =>
      unfold handleTransportMessage handleRpcResponse
      split
      next hw =>
        have taken : c.heard (.message t v) = (c.awaited v).map fun e => (e.1, e.2, v) :=
          if_pos ⟨by simpa using hli, hl, hw⟩
        cases ha : c.awaited v with
        | none => exact .idle (by rw [taken, ha]; rfl) (.refl c)
        | some e => exact .answered (by rw [taken, ha]; rfl) (.refl _)
      next hm => exact .idle (by simp [heard, hm]) (.refl c)

theorem onCloseEvent_move : RpcMove c (.closeEvent t) (c.onCloseEvent t) := by
  unfold onCloseEvent
  split
  · exact .idle rfl (.refl c)
  · dsimp only
    split
    · exact .idle rfl ⟨rfl, rfl, rfl, rfl⟩
    · exact .idle rfl ⟨rfl, rfl, rfl, rfl⟩
    · have ann : SameRpcs c (c.update t fun tr =>
        { tr with destroyed := true, announced := true, connectListener := false }) :=
          ⟨rfl, rfl, rfl, rfl⟩
      have hs := ann.closeSocket "Multiplexer control socket closed"
      exact .cleared _ rfl ⟨hs.next, hs.pending, hs.timers, hs.settlements⟩

theorem step_rpcMove (act : ClientAct) : RpcMove c act (c.step act) := by
  cases act with
  | connect => exact (connect_move _).rpcMove rfl
  | call method params ensureDaemon luck =>
    exact (call_move method params ensureDaemon luck).rpcMove rfl
  | sendRpc method luck => exact sendRpc_move method luck
  | resume f ensured luck => exact (resume_move f ensured luck).rpcMove rfl
  | settleConnect f => exact (settleConnect_move f).rpcMove rfl
  | socketConnect t luck => exact .idle rfl (onConnect_sameRpcs t luck)
  | message t v => exact onMessage_move t v
  | destroy t => exact .idle rfl ⟨rfl, rfl, rfl, rfl⟩
  | closeEvent t => exact onCloseEvent_move t
  | handshakeTimeout t =>
    refine .idle rfl ?_
    change SameRpcs c (c.onHandshakeTimeout t)
    unfold onHandshakeTimeout
    split <;> exact ⟨rfl, rfl, rfl, rfl⟩
  | rpcTimeout id =>
    change RpcMove c _ (c.onRpcTimeout id)
    unfold onRpcTimeout
    split
    next ha => exact .timedOut rfl ha (.refl _)
    · exact .idle rfl (.refl c)
  | close =>
    have ended : SameRpcs c { c with closed := true, connectPromise := none } := ⟨rfl, rfl, rfl, rfl⟩
    exact .cleared _ rfl (ended.closeSocket _)

/- The bookkeeping -/

theorem initial_bookkept : initial.Bookkept where
  first := le_refl 1
  issued := nofun
  pending id := by simp [initial, OrderedMap.keys, empty]
  timers := rfl
  once := nodup_nil

theorem Bookkept.congr (hk : c.Bookkept) (hsa : SameRpcs c c') : c'.Bookkept := by
  have hs : c'.settled = c.settled := congrArg (map Prod.fst) hsa.settlements
  exact
    { first := hsa.next ▸ hk.first
      issued := by
        rw [hs, hsa.next]
        exact hk.issued
      pending := by
        rw [hs, hsa.next, hsa.pending]
        exact hk.pending
      timers := by
        rw [hsa.timers, hsa.pending]
        exact hk.timers
      once := by
        rw [hs]
        exact hk.once }

@[simp] theorem settled_settle (id : Int) (out : Outcome) :
    (c.settle id out).settled = c.settled ++ [id] := by
  simp [settled, settle]

theorem Bookkept.settle (hk : c.Bookkept) (pending : id ∈ c.pendingRpc.keys) (out : Outcome) :
    (c.settle id out).Bookkept := by
  obtain ⟨hr, hu⟩ := (hk.pending id).mp pending
  constructor
  case first => exact hk.first
  case issued =>
    intro o hi
    rcases List.mem_append.mp (settled_settle (c := c) id out ▸ hi) with hb | now
    · exact hk.issued o hb
    · cases List.mem_singleton.mp now
      exact hr
  case pending =>
    intro o
    have hb := hk.pending o
    rw [settled_settle]
    simp only [DaemonClient.settle, OrderedMap.keys_delete, List.mem_filter, decide_eq_true_eq,
      List.mem_append, List.mem_singleton, hb]
    tauto
  case timers =>
    simp only [DaemonClient.settle, OrderedMap.keys_delete, hk.timers]
  case once =>
    rw [settled_settle]
    refine List.nodup_append.mpr ⟨hk.once, List.nodup_singleton id, ?_⟩
    rintro a hi b now rfl
    cases List.mem_singleton.mp now
    exact hu hi

theorem Bookkept.fresh (h : c.Bookkept) :
    c.nextRpcId ∉ c.pendingRpc.keys ∧ c.nextRpcId ∉ c.settled := by
  constructor
  · intro hi
    have range := ((h.pending _).mp hi).1
    omega
  · intro hi
    have range := h.issued _ hi
    omega

theorem keys_enter (h : c.Bookkept) (method : ControlRpcMethod) :
    (c.enter method).pendingRpc.keys = c.pendingRpc.keys ++ [c.nextRpcId] :=
  keys_set.trans (if_neg h.fresh.1)

theorem Bookkept.enter (h : c.Bookkept) (method : ControlRpcMethod) : (c.enter method).Bookkept := by
  have above := h.first
  constructor
  case first =>
    change 1 ≤ c.nextRpcId + 1
    omega
  case issued =>
    intro id hi
    have range := h.issued id hi
    change 1 ≤ id ∧ id < c.nextRpcId + 1
    omega
  case pending =>
    intro id
    rw [keys_enter h method, mem_append, mem_singleton, h.pending id]
    change _ ↔ (1 ≤ id ∧ id < c.nextRpcId + 1) ∧ id ∉ c.settled
    constructor
    · rintro (⟨range, hu⟩ | rfl)
      · exact ⟨by omega, hu⟩
      · exact ⟨by omega, h.fresh.2⟩
    · rintro ⟨range, hu⟩
      by_cases hl : id = c.nextRpcId
      · exact .inr hl
      · exact .inl ⟨by omega, hu⟩
  case timers => rw [keys_enter h method, ← h.timers]; rfl
  case once => exact h.once

theorem Bookkept.foldl_settle {ids : List Int} (hk : c.Bookkept) (hn : ids.Nodup)
    (hp : ∀ id ∈ ids, id ∈ c.pendingRpc.keys) (out : Outcome) :
    (ids.foldl (fun c id => c.settle id out) c).Bookkept := by
  induction ids generalizing c with
  | nil => exact hk
  | cons id xs ih =>
    obtain ⟨ha, hn⟩ := List.nodup_cons.mp hn
    obtain ⟨hh, ho⟩ := List.forall_mem_cons.mp hp
    refine ih (hk.settle hh out) hn ?_
    intro o hi
    have hd : o ≠ id := by
      rintro rfl
      exact ha hi
    simpa [DaemonClient.settle, OrderedMap.keys_delete, hd] using ho o hi

theorem Bookkept.rejectAllPendingRpc (h : c.Bookkept) (err : String) :
    (c.rejectAllPendingRpc err).Bookkept :=
  h.foldl_settle c.pendingRpc.nodup (fun _ hi => hi) _

theorem heard_pending (h : c.heard act = some (id, method, resp)) : id ∈ c.pendingRpc.keys := by
  unfold heard at h
  split at h
  · split at h
    · obtain ⟨e, ha, hs⟩ := Option.map_eq_some_iff.mp h
      cases hs
      unfold awaited at ha
      obtain ⟨number, -, hf⟩ := Option.bind_eq_some_iff.mp ha
      obtain ⟨stored, get, rfl⟩ := Option.map_eq_some_iff.mp hf
      exact mem_keys_iff.mpr ⟨stored, get⟩
    · cases h
  · cases h

theorem Bookkept.step (hk : c.Bookkept) (hhe : ¬ c.SendsToNull act) : (c.step act).Bookkept := by
  cases step_rpcMove (c := c) act with
  | idle _ hs => exact hk.congr hs
  | answered hh hs => exact (hk.settle (heard_pending hh) _).congr hs
  | timedOut _ ha hs => exact (hk.settle (hk.timers ▸ ha) _).congr hs
  | cleared err _ hs => exact (hk.rejectAllPendingRpc err).congr hs
  | sent _ _ hs => exact (hk.enter _).congr hs
  | refused _ _ hs =>
    refine ((hk.enter _).settle ?_ _).congr hs
    rw [keys_enter hk]
    simp
  | lost _ hn => exact absurd hn hhe

theorem not_bookkept_of_sendsToNull (hke : c.Bookkept) (hn : c.SendsToNull act) :
    ¬ (c.step act).Bookkept := by
  cases act with
  | sendRpc method luck =>
    obtain ⟨hl, hc, hm⟩ := hn
    intro ha
    have hk : (c.step (.sendRpc method luck)).pendingRpc.keys =
        c.pendingRpc.keys ++ [c.nextRpcId] := by
      simp only [step, sendRpc, hl, hc, hm]
      exact keys_enter hke method
    have hs : c.nextRpcId ∈ (c.step (.sendRpc method luck)).settled := by
      simp [step, sendRpc, hl, hc, hm, settled]
    have he : c.nextRpcId ∈ (c.step (.sendRpc method luck)).pendingRpc.keys := by simp [hk]
    exact ((ha.pending _).mp he).2 hs
  | _ => cases hn

theorem bookkept_step_iff (c : DaemonClient) (act : ClientAct) (h : c.Bookkept) :
    (c.step act).Bookkept ↔ ¬ c.SendsToNull act :=
  ⟨fun ha hn => not_bookkept_of_sendsToNull h hn ha, fun hh => h.step hh⟩

/- How an RPC is settled -/

/-- What a step adds to the settlements: the outcome of the response it takes, or errors. -/
def Adds (heard : Option (Int × ControlRpcMethod × Json)) (added : List (Int × Outcome)) : Prop :=
  match heard with
  | some (id, method, response) => added = [(id, responseOutcome method response)]
  | none => ∀ entry ∈ added, entry.2.isError

theorem settlements_step (act : ClientAct) :
    ∃ added, (c.step act).settlements = c.settlements ++ added ∧ Adds (c.heard act) added := by
  cases step_rpcMove (c := c) act with
  | idle hu hs => exact ⟨[], by simp [hs.settlements], by simp [hu, Adds]⟩
  | answered heard hs => exact ⟨_, hs.settlements, by rw [heard]; rfl⟩
  | timedOut hu _ hs | refused hu _ hs | lost hu _ hs =>
    exact ⟨_, hs.settlements, by simp [hu, Adds, Outcome.isError]⟩
  | cleared err hu hs =>
    rw [rejectAll_eq] at hs
    exact ⟨_, hs.settlements, by simp [hu, Adds, Outcome.isError]⟩
  | sent hu _ hs => exact ⟨[], hs.settlements.trans (by simp [enter]), by simp [hu, Adds]⟩

theorem settled_step (act : ClientAct) (h : id ∈ c.settled) : id ∈ (c.step act).settled := by
  obtain ⟨added, hg, -⟩ := settlements_step (c := c) act
  simp only [settled, hg, map_append]
  exact mem_append_left _ h

theorem answerTo_settled (hk : c.Bookkept)
    (hhe : Along step (fun c act => ¬ c.SendsToNull act) c acts) (hs : id ∈ c.settled) :
    answerTo id c acts = none := by
  induction acts generalizing c with
  | nil => rfl
  | cons act xs ih =>
    have later := ih (hk.step hhe.1) hhe.2 (settled_step act hs)
    unfold answerTo
    cases hh : c.heard act with
    | none => exact later
    | some e =>
      obtain ⟨answered, method, resp⟩ := e
      have apart : answered ≠ id := by
        rintro rfl
        exact ((hk.pending _).mp (heard_pending hh)).2 hs
      simp [apart, later]

/-- The response is one for the method and carries a result. -/
def carriesResult (method : ControlRpcMethod) (response : Json) : Bool :=
  isControlRpcResponseTo (some method) response && required response "ok" Json.truthy

theorem responseOutcome_eq (method : ControlRpcMethod) (resp : Json) :
    if carriesResult method resp then responseOutcome method resp = .resolved (resp.get? "result")
    else (responseOutcome method resp).isError := by
  unfold carriesResult responseOutcome createRpcError
  split_ifs <;> simp_all [Outcome.isError]

/-- The outcome that an RPC has to have: the result of its first response if that is one for the
method and carries a result, and an error if it is not or if there was none. -/
def Accounts (answer : Option (ControlRpcMethod × Json)) (outcome : Outcome) : Prop :=
  match answer with
  | some (method, response) =>
    if carriesResult method response then outcome = .resolved (response.get? "result")
    else outcome.isError
  | none => outcome.isError

theorem settlements_accounted (hk : c.Bookkept)
    (hhe : Along step (fun c act => ¬ c.SendsToNull act) c acts) {out : Outcome}
    (hf : (id, out) ∈ (acts.foldl step c).settlements) :
    (id, out) ∈ c.settlements ∨ (id ∉ c.settled ∧ Accounts (answerTo id c acts) out) := by
  induction acts generalizing c with
  | nil => exact .inl hf
  | cons act xs ih =>
    have after := hk.step hhe.1
    obtain ⟨added, hg, ha⟩ := settlements_step (c := c) act
    rcases ih after hhe.2 hf with he | ⟨hu, hac⟩
    · -- settled by this very step or before it
      rw [hg, mem_append] at he
      rcases he with hb | now
      · exact .inl hb
      · right
        have ho : id ∉ c.settled ∧ id ∈ (c.step act).settled := by
          have all := after.once
          simp only [settled, hg, map_append] at all ⊢
          have hi : id ∈ added.map Prod.fst := mem_map_of_mem now
          exact ⟨fun hb => disjoint_of_nodup_append all hb hi, mem_append_right _ hi⟩
        refine ⟨ho.1, ?_⟩
        have later := answerTo_settled after hhe.2 ho.2
        unfold answerTo
        cases hh : c.heard act with
        | none =>
          rw [hh] at ha
          simp only [later]
          exact ha _ now
        | some e =>
          obtain ⟨answered, method, resp⟩ := e
          rw [hh] at ha
          obtain rfl : added = [(answered, responseOutcome method resp)] := ha
          cases mem_singleton.mp now
          simpa [Accounts] using responseOutcome_eq method resp
    · right
      refine ⟨fun hb => hu (settled_step act hb), ?_⟩
      unfold answerTo
      cases hh : c.heard act with
      | none => exact hac
      | some e =>
        obtain ⟨answered, method, resp⟩ := e
        have apart : answered ≠ id := by
          rintro rfl
          rw [hh] at ha
          obtain rfl : added = [(answered, responseOutcome method resp)] := ha
          exact hu (by simp [settled, hg])
        simpa [apart] using hac

theorem Bookkept.timeout_settles (hk : c.Bookkept) (hp : id ∈ c.pendingRpc.keys) :
    id ∈ (c.step (.rpcTimeout id)).settled := by
  have armed : id ∈ c.timers := hk.timers ▸ hp
  simp [DaemonClient.step, onRpcTimeout, armed]

theorem answerTo_settles
    (h : answerTo id c acts = some (method, resp)) : id ∈ (acts.foldl step c).settled := by
  have stays : ∀ (c : DaemonClient) (acts : List ClientAct), id ∈ c.settled →
      id ∈ (acts.foldl step c).settled := by
    intro c acts hb
    have kept : ∀ (c : DaemonClient) (act : ClientAct), (fun c : DaemonClient => id ∈ c.settled) c →
        (fun c : DaemonClient => id ∈ c.settled) (c.step act) := fun _ act hhe => settled_step act hhe
    exact invariant_foldl kept hb acts
  induction acts generalizing c with
  | nil => cases h
  | cons act xs ih =>
    unfold answerTo at h
    cases hh : c.heard act with
    | none =>
      rw [hh] at h
      exact ih h
    | some e =>
      obtain ⟨answered, method', response'⟩ := e
      rw [hh] at h
      dsimp only at h
      split at h
      next hs =>
        subst hs
        obtain ⟨added, hg, ha⟩ := settlements_step (c := c) act
        rw [hh] at ha
        obtain rfl : added = [(answered, responseOutcome method' response')] := ha
        exact stays _ xs (by simp [settled, hg])
      · exact ih h

/-- The life of an RPC. On the side of the client the table holds, in every state of a run, exactly
the RPCs sent and not settled, each with its timer, and none is settled twice, exactly if no RPC is
sent without a transport. In such a run a timer that fires settles its RPC, a response that comes to
a pending RPC settles it, and every outcome is that of the first such response or an error. The
server answers a request at most once, on every run, and its `dispatchRpc` does not reject. -/
theorem rpc_settled_once (acts : List ClientAct) (served : List Daemon.ServerAct) :
    (Throughout step Bookkept initial acts ↔
      Along step (fun c act => ¬ c.SendsToNull act) initial acts) ∧
    (Along step (fun c act => ¬ c.SendsToNull act) initial acts →
      Throughout step (fun c => ∀ id ∈ c.pendingRpc.keys, id ∈ (c.step (.rpcTimeout id)).settled)
        initial acts ∧
      (∀ id, (answerTo id initial acts).isSome = true → id ∈ (acts.foldl step initial).settled) ∧
      (∀ id outcome, (id, outcome) ∈ (acts.foldl step initial).settlements →
        Accounts (answerTo id initial acts) outcome)) ∧
    Throughout Daemon.ControlServer.step Daemon.ControlServer.AnswersOnce
      Daemon.ControlServer.initial served := by
  have he : Throughout step Bookkept initial acts ↔
      Along step (fun c act => ¬ c.SendsToNull act) initial acts :=
    throughout_iff_along (fun _ _ (_ : True) _ => trivial)
      (fun c act _ hk => bookkept_step_iff c act hk) trivial
      initial_bookkept
  refine ⟨he, ?_, Daemon.ControlServer.answersOnce_throughout served⟩
  intro hh
  refine ⟨?_, ?_, ?_⟩
  · exact throughout_mono (fun _ hk _ => hk.timeout_settles) (he.mpr hh)
  · intro id hha
    obtain ⟨⟨method, response⟩, han⟩ := Option.isSome_iff_exists.mp hha
    exact answerTo_settles han
  · intro id outcome hf
    rcases settlements_accounted initial_bookkept hh hf with hb | ⟨-, ha⟩
    · cases hb
    · exact ha

/-- Another activation closes the transport during its handshake, the register response still
connects the client, and the RPC sent then stays in the table after its promise was rejected; its
timer rejects it again. -/
theorem rpc_without_transport_stays :
    let c :=
      [ClientAct.connect, .resume 0 .usable ⟨true, true, true⟩, .socketConnect 0 ⟨true, true, true⟩,
      .call .shutdownDaemon (.obj []) false ⟨true, true, true⟩, .message 0 registerResponse,
      .sendRpc .closeClient ⟨true, true, true⟩].foldl step initial
    c.pendingRpc.keys = [1] ∧ c.timers = [1] ∧ c.settled = [1] ∧
      (c.step (.rpcTimeout 1)).settled = [1, 1] := by
  decide +kernel

end DaemonClient

end DebugRouter.Client
