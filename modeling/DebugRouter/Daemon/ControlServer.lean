import DebugRouter.Library.Runs
import DebugRouter.Protocol.ControlRpc
import Mathlib.Logic.Function.Basic

/-!
`MultiplexerControlServer` and `MultiplexerControlConnection` once a transport has registered: the
table of connections, the requests that wait for the host, and what is handed to the transports.
-/
namespace DebugRouter.Daemon

open Library Protocol List Json Function

inductive Thrown where
  | coded (code message : String) (details : Option Json)
  | error (message : String)
  | other

/-- What `handleControlRpc` comes to; `undefined` is `result none`. -/
inductive Handled where
  | result (value : Option Json)
  | thrown (error : Thrown)

def createRpcError : Thrown → Json
  | .coded code message details =>
    mk [("code", some (.str code)), ("message", some (.str message)), ("details", details)]
  | .error message =>
    mk [("code", some (.str "control-rpc-failed")), ("message", some (.str message))]
  | .other =>
    mk [("code", some (.str "control-rpc-failed")),
      ("message", some (.str "Multiplexer control RPC failed"))]

inductive DispatchPoint where
  | awaiting | resolved | rejected
  deriving DecidableEq

structure Dispatch where
  controlId : Nat
  /-- `connections.get(controlId)`, whose entry the call keeps. -/
  connection : Option Nat
  rpcId : Json
  point : DispatchPoint

/-- A message that a connection handed to its transport; `request` is the dispatch it answers. -/
structure Handed where
  controlId : Nat
  request : Option Nat
  message : Json

structure ControlServer where
  connections : List Nat
  closed : Nat → Bool
  nextControlId : Nat
  dispatches : List Dispatch
  handed : List Handed

inductive ServerAct where
  | registerConnection
  | message (controlId : Nat) (value : Json) (debugInfo : Option Json)
  | handled (request : Nat) (outcome : Handled) (debugInfo : Option Json)
  | transportClose (controlId : Nat)
  | stop

namespace ControlServer
variable (s : ControlServer)

def initial : ControlServer := ⟨[], fun _ => true, 1, [], []⟩

def registerConnection : ControlServer :=
  { s with
    connections := s.connections ++ [s.nextControlId]
    closed := update s.closed s.nextControlId false
    nextControlId := s.nextControlId + 1 }

def send (controlId : Nat) (request : Option Nat) (message : List (String × Option Json))
    (debugInfo : Option Json) :
    ControlServer :=
  if s.closed controlId then s
  else { s with
    handed := s.handed ++ [⟨controlId, request, Json.mk (message ++ [("debugInfo", debugInfo)])⟩] }

def sendResponse (controlId : Nat) (request : Option Nat) (rpcId : Json) (result : Option Json)
    (debugInfo : Option Json) : ControlServer :=
  s.send controlId request
    [("kind", some (.str "rpc-response")), ("id", some rpcId), ("ok", some (.bool true)),
      ("result", some (result.getD (.obj [])))] debugInfo

def sendError (controlId : Nat) (request : Option Nat) (rpcId : Json) (error : Json)
    (debugInfo : Option Json) :
    ControlServer :=
  s.send controlId request
    [("kind", some (.str "rpc-response")), ("id", some rpcId), ("ok", some (.bool false)),
      ("error", some error)]
    debugInfo

def dispatchRpc (controlId : Nat) (rpcId : Json) : ControlServer :=
  { s with
    dispatches := s.dispatches ++
      [⟨controlId, if controlId ∈ s.connections then some controlId else none, rpcId, .awaiting⟩] }

def settleDispatch (request : Nat) (point : DispatchPoint) : ControlServer :=
  { s with
    dispatches := s.dispatches.modify request fun dispatch => { dispatch with point := point } }

/-- The rest of `dispatchRpc`. Without a connection the `try` throws, and so does the `catch`. -/
def onHandled (request : Nat) (outcome : Handled) (debugInfo : Option Json) : ControlServer :=
  match s.dispatches[request]? with
  | some ⟨_, connection, rpcId, .awaiting⟩ =>
    match connection with
    | none => s.settleDispatch request .rejected
    | some controlId =>
      let s := match outcome with
        | .result value => s.sendResponse controlId (some request) rpcId value debugInfo
        | .thrown error => s.sendError controlId (some request) rpcId (createRpcError error) debugInfo
      s.settleDispatch request .resolved
  | _ => s

def invalidMessageRpcId : Json := ofInt (-1)

def handleTransportMessage (controlId : Nat) (value : Json) (debugInfo : Option Json) :
    ControlServer :=
  if s.closed controlId then s
  else if isControlRpcRequest value then s.dispatchRpc controlId ((value.get? "id").getD .null)
  else
    let rpcId := if isRecord value && required value "id" isNumber then (value.get? "id").getD .null
      else invalidMessageRpcId
    s.sendError controlId none rpcId (Json.mk [("code", some (.str "invalid-control-message")),
        ("message", some (.str "Invalid multiplexer control message"))]) debugInfo

def handleClose (controlId : Nat) : ControlServer :=
  if s.closed controlId then s
  else
    { s with
      closed := update s.closed controlId true
      connections := s.connections.filter (· ≠ controlId) }

def stop : ControlServer := s.connections.foldl handleClose { s with connections := [] }

def step : ServerAct → ControlServer
  | .registerConnection => s.registerConnection
  | .message controlId value debugInfo => s.handleTransportMessage controlId value debugInfo
  | .handled request outcome debugInfo => s.onHandled request outcome debugInfo
  | .transportClose controlId => s.handleClose controlId
  | .stop => s.stop

/- Requests are answered once -/

/-- No call of `dispatchRpc` rejects, a request has at most one answer, and the answer goes to the
connection the request came from and carries its id. -/
structure AnswersOnce (s : ControlServer) : Prop where
  never_rejects : ∀ (k : Nat) (d : Dispatch), s.dispatches[k]? = some d → d.point ≠ .rejected
  once : (s.handed.filterMap Handed.request).Nodup
  answered : ∀ h ∈ s.handed, ∀ k, h.request = some k → ∃ d, s.dispatches[k]? = some d ∧
    d.point = .resolved ∧ h.controlId = d.controlId ∧ h.message.get? "id" = some d.rpcId

structure Dispatching (s : ControlServer) : Prop extends s.AnswersOnce where
  /-- What is open is in the table, so that a request finds its connection. -/
  listed : ∀ id, s.closed id = false → id ∈ s.connections
  bound : ∀ (k : Nat) (d : Dispatch), s.dispatches[k]? = some d → d.connection = some d.controlId

theorem initial_dispatching : initial.Dispatching where
  never_rejects := nofun
  once := nodup_nil
  answered := nofun
  listed := nofun
  bound := nofun

variable {s}

theorem Dispatching.connected {s' : ControlServer} (hd : s.Dispatching)
    (hdi : s'.dispatches = s.dispatches) (hh : s'.handed = s.handed)
    (listed : ∀ id, s'.closed id = false → id ∈ s'.connections) : s'.Dispatching where
  never_rejects := hdi ▸ hd.never_rejects
  once := hh ▸ hd.once
  answered := hdi ▸ hh ▸ hd.answered
  listed := listed
  bound := hdi ▸ hd.bound

theorem Dispatching.registerConnection (h : s.Dispatching) : s.registerConnection.Dispatching := by
  refine h.connected rfl rfl ?_
  intro id hl
  by_cases hs : id = s.nextControlId
  · simp [ControlServer.registerConnection, hs]
  · have before : s.closed id = false := by
      simpa [ControlServer.registerConnection, update_of_ne hs] using hl
    exact mem_append_left _ (h.listed id before)

theorem Dispatching.handleClose (h : s.Dispatching) (controlId : Nat) :
    (s.handleClose controlId).Dispatching := by
  unfold ControlServer.handleClose
  split
  · exact h
  · refine h.connected rfl rfl ?_
    intro id hl
    have apart : id ≠ controlId := by
      rintro rfl
      simp at hl
    have before : s.closed id = false := by simpa [update_of_ne apart] using hl
    simpa [apart] using h.listed id before

theorem foldl_handleClose (ids : List Nat) (s : ControlServer) :
    (ids.foldl handleClose s).dispatches = s.dispatches ∧
      (ids.foldl handleClose s).handed = s.handed ∧
      ∀ id, (ids.foldl handleClose s).closed id = false → s.closed id = false ∧ id ∉ ids := by
  induction ids generalizing s with
  | nil => simp
  | cons first rest ih =>
    obtain ⟨dispatches, handed, closed⟩ := ih (s.handleClose first)
    have frame : (s.handleClose first).dispatches = s.dispatches ∧
        (s.handleClose first).handed = s.handed := by
      unfold handleClose
      split <;> exact ⟨rfl, rfl⟩
    refine ⟨dispatches.trans frame.1, handed.trans frame.2, ?_⟩
    intro id hl
    obtain ⟨hb, ha⟩ := closed id hl
    unfold handleClose at hb
    split at hb
    next hal =>
      have hd : id ≠ first := by
        rintro rfl
        simp [hal] at hb
      exact ⟨hb, by simp [hd, ha]⟩
    · by_cases hs : id = first
      · simp [hs] at hb
      · simp only [update_of_ne hs] at hb
        exact ⟨hb, by simp [hs, ha]⟩

theorem Dispatching.stop (h : s.Dispatching) : s.stop.Dispatching := by
  obtain ⟨hd, hh, hc⟩ := foldl_handleClose s.connections { s with connections := [] }
  refine h.connected hd hh ?_
  intro id hl
  obtain ⟨hb, hg⟩ := hc id hl
  exact absurd (h.listed id hb) hg

theorem Dispatching.sendNotice (dispatching : s.Dispatching) (ctrl : Nat)
    (msg : List (String × Option Json))
    (dbg : Option Json) : (s.send ctrl none msg dbg).Dispatching := by
  unfold send
  split
  · exact dispatching
  · refine { dispatching with once := ?_, answered := ?_ }
    · simpa using dispatching.once
    · intro h hi k ha
      rcases mem_append.mp hi with hb | new
      · exact dispatching.answered h hb k ha
      · cases mem_singleton.mp new
        cases ha

theorem Dispatching.dispatchRpc {ctrl : Nat} (hd : s.Dispatching) (hli : s.closed ctrl = false)
    (rpc : Json) : (s.dispatchRpc ctrl rpc).Dispatching := by
  have split : ∀ {k : Nat} {d : Dispatch}, (s.dispatchRpc ctrl rpc).dispatches[k]? = some d →
      s.dispatches[k]? = some d ∨ d = ⟨ctrl, some ctrl, rpc, .awaiting⟩ := by
    intro k d hf
    simp only [ControlServer.dispatchRpc, hd.listed ctrl hli, if_true, List.getElem?_append] at hf
    split at hf
    · exact .inl hf
    · right
      have last := List.mem_of_getElem? hf
      simpa using last
  refine { once := hd.once, listed := hd.listed, never_rejects := ?_, answered := ?_, bound := ?_ }
  · intro k d hf
    rcases split hf with hb | rfl
    · exact hd.never_rejects k d hb
    · nofun
  · intro h hi k ha
    obtain ⟨d, hf, hr⟩ := hd.answered h hi k ha
    refine ⟨d, ?_, hr⟩
    exact (List.getElem?_append_left (List.getElem?_eq_some_iff.mp hf).1).trans hf
  · intro k d hf
    rcases split hf with hb | rfl
    · exact hd.bound k d hb
    · rfl

theorem Dispatching.handleTransportMessage (h : s.Dispatching) (ctrl : Nat) (v : Json)
    (dbg : Option Json) : (s.handleTransportMessage ctrl v dbg).Dispatching := by
  unfold ControlServer.handleTransportMessage
  split
  · exact h
  next hl =>
    split
    · exact h.dispatchRpc (by simpa using hl) _
    · exact h.sendNotice _ _ _

variable {k : Nat} {d : Dispatch}

theorem getElem?_settleDispatch (hf : s.dispatches[k]? = some d) (pt : DispatchPoint)
    (j : Nat) :
    (s.settleDispatch k pt).dispatches[j]? =
      if j = k then some { d with point := pt } else s.dispatches[j]? := by
  rw [settleDispatch, getElem?_modify]
  by_cases hs : j = k
  · subst hs
    simp [hf]
  · have apart : ¬ k = j := fun h => hs h.symm
    simp [hs, apart]

theorem Dispatching.settleResolved (hd : s.Dispatching)
    (hf : s.dispatches[k]? = some d) : (s.settleDispatch k .resolved).Dispatching := by
  have hs := getElem?_settleDispatch hf .resolved
  refine { once := hd.once, listed := hd.listed, never_rejects := ?_, answered := ?_, bound := ?_ }
  · intro j d' hh
    rw [hs] at hh
    split at hh
    · cases hh
      nofun
    · exact hd.never_rejects j d' hh
  · intro h hi j ha
    obtain ⟨d', hh, resolved, hr⟩ := hd.answered h hi j ha
    rw [hs]
    split
    next hsa =>
      subst hsa
      rw [hf] at hh
      cases hh
      exact ⟨_, rfl, rfl, hr⟩
    · exact ⟨d', hh, resolved, hr⟩
  · intro j d' hh
    rw [hs] at hh
    split at hh
    · cases hh
      exact hd.bound k d hf
    · exact hd.bound j d' hh

theorem Dispatching.sendAnswer (hd : s.Dispatching)
    (hf : s.dispatches[k]? = some d) (haw : d.point = .awaiting)
    {msg : List (String × Option Json)}
    {dbg : Option Json}
    (hc : (Json.mk (msg ++ [("debugInfo", dbg)])).get? "id" = some d.rpcId) :
    ((s.send d.controlId (some k) msg dbg).settleDispatch k .resolved).Dispatching := by
  have settled := hd.settleResolved hf
  unfold send
  split
  · exact settled
  · have hu : k ∉ s.handed.filterMap Handed.request := by
      intro he
      obtain ⟨h, hi, ha⟩ := List.mem_filterMap.mp he
      obtain ⟨d', hh, resolved, -⟩ := hd.answered h hi k ha
      rw [hf] at hh
      cases hh
      rw [haw] at resolved
      cases resolved
    refine { settled with once := ?_, answered := ?_ }
    · have grown := List.nodup_append.mpr ⟨hd.once, List.nodup_singleton k, by
        intro a hi b new hs
        cases List.mem_singleton.mp new
        exact hu (hs ▸ hi)⟩
      simpa [settleDispatch] using grown
    · intro h hi j ha
      rcases List.mem_append.mp hi with hb | new
      · exact settled.answered h hb j ha
      · cases List.mem_singleton.mp new
        cases ha
        have hh := getElem?_settleDispatch (s := s) hf .resolved k
        exact ⟨{ d with point := .resolved }, hh.trans (if_pos rfl), rfl, rfl, hc⟩

theorem Dispatching.onHandled (h : s.Dispatching) (req : Nat) (out : Handled)
    (dbg : Option Json) : (s.onHandled req out dbg).Dispatching := by
  unfold ControlServer.onHandled
  split
  next ctrl cn rpc hf =>
    have hb := h.bound req _ hf
    dsimp only at hb
    subst hb
    cases out with
    | result v | thrown err => exact h.sendAnswer hf rfl (by simp)
  · exact h

theorem Dispatching.step (h : s.Dispatching) (act : ServerAct) : (s.step act).Dispatching := by
  cases act with
  | registerConnection => exact h.registerConnection
  | message ctrl v dbg => exact h.handleTransportMessage ctrl v dbg
  | handled req out dbg => exact h.onHandled req out dbg
  | transportClose ctrl => exact h.handleClose ctrl
  | stop => exact h.stop

theorem answersOnce_throughout (acts : List ServerAct) :
    Throughout ControlServer.step AnswersOnce initial acts :=
  throughout_mono (fun _ hd => hd.toAnswersOnce)
    (throughout_of_invariant (fun _ act hd => hd.step act) initial_dispatching acts)

end ControlServer

end DebugRouter.Daemon
