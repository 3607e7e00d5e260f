import DebugRouter.Connector.SnapshotLaw

/-!
The facade on one control connection. A chunk of bytes delivers its complete frames one
after the other without a pause; the continuations of the RPC calls they answer run only
after the chunk. So a result is applied after every snapshot of its chunk.
-/
namespace DebugRouter.Connector
open Library Protocol

/-- The calls whose results are mirrored, and all the others. -/
inductive Call where
  | connectDevices | connectUsbClients | other
  deriving DecidableEq

/-- What the validators of the two mirrored methods make of an RPC result. -/
structure RpcResult where
  asDevices : Option (List DeviceSnapshot)
  asClients : Option (List ClientSnapshot)
  deriving DecidableEq

inductive Frame where
  | response (id : Nat) (result : RpcResult)
  | failure (id : Nat)
  | snapshot (snapshot : Snapshot)
  | otherEvent
  deriving DecidableEq

def Frame.carriesSnapshot : Frame → Bool
  | .snapshot _ => true
  | _ => false

/-- The rest of an `async` method once its RPC has been answered. -/
inductive Continuation where
  | devices (snapshots : List DeviceSnapshot)
  | clients (snapshots : List ClientSnapshot)
  deriving DecidableEq

structure Facade where
  mirror : Mirror
  pendingRpc : OrderedMap Nat Call
  nextRpcId : Nat
  continuations : List Continuation

namespace Facade

/-- `None` rejects the call: the result is not one of its method. -/
def continuationOf : Call → RpcResult → Option Continuation
  | .connectDevices, result => result.asDevices.map .devices
  | .connectUsbClients, result => result.asClients.map .clients
  | .other, _ => none

def handleRpcResponse (f : Facade) (id : Nat) (result : RpcResult) : Facade :=
  match f.pendingRpc.get? id with
  | none => f
  | some call =>
    { f with
      pendingRpc := f.pendingRpc.delete id
      continuations := f.continuations ++ (continuationOf call result).toList }

def handleTransportMessage (f : Facade) : Frame → Facade
  | .response id result => f.handleRpcResponse id result
  | .failure id => { f with pendingRpc := f.pendingRpc.delete id }
  | .snapshot snapshot => { f with mirror := f.mirror.applySnapshot snapshot }
  | .otherEvent => f

def runContinuation (m : Mirror) : Continuation → Mirror
  | .devices snapshots => m.upsertDeviceSnapshots snapshots
  | .clients snapshots => m.upsertClientSnapshots snapshots

def runContinuations (f : Facade) : Facade :=
  { f with mirror := f.continuations.foldl runContinuation f.mirror, continuations := [] }

/-- One turn of the event loop: a call that sends its RPC, an RPC timeout, or a chunk. -/
inductive Turn where
  | call (call : Call)
  | timeout (id : Nat)
  | chunk (frames : List Frame)
  deriving DecidableEq

def step (f : Facade) : Turn → Facade
  | .call call =>
    { f with pendingRpc := f.pendingRpc.set f.nextRpcId call, nextRpcId := f.nextRpcId + 1 }
  | .timeout id => { f with pendingRpc := f.pendingRpc.delete id }
  | .chunk frames => (frames.foldl handleTransportMessage f).runContinuations

def applied : Facade → List Turn → List Continuation
  | _, [] => []
  | f, .chunk frames :: rest =>
    (frames.foldl handleTransportMessage f).continuations ++ applied (f.step (.chunk frames)) rest
  | f, turn :: rest => applied (f.step turn) rest

def Turn.carriesSnapshot : Turn → Bool
  | .chunk frames => frames.any Frame.carriesSnapshot
  | _ => false

end Facade

end DebugRouter.Connector
