import DebugRouter.Library.Holders
import DebugRouter.Library.OrderedMap
import DebugRouter.Library.Runs
import Mathlib.Logic.Function.Basic

/-!
The client watchers of the Host. `ensureClientWatcher` starts at most one startup for a device; the
promise of the startup in `clientWatcherStartingByDeviceId` is its token, which every later check
compares. A step is what runs between two awaits, so that every invalidation may fall between any
two of them.
-/
namespace DebugRouter.Daemon

open Library Function

/-- A device object; another one may come later under the same serial. -/
structure DeviceRef where
  id : Nat
  /-- It is an `AndroidDevice`, whose ports are forwarded before the start. -/
  android : Bool
  deriving DecidableEq

inductive AttemptPoint where
  | queued
  | forwarding
  | returned
  | leaving
  | settled
  deriving DecidableEq

structure Attempt where
  deviceId : String
  device : DeviceRef
  point : AttemptPoint
  /-- The start state of the device was cleared since the attempt was made. No code reads this. -/
  invalidated : Bool

structure WatcherHost where
  devices : OrderedMap String DeviceRef
  nextDevice : Nat
  legacyOwnershipAttached : Bool
  clientWatcherStartedDeviceIds : List String
  clientWatcherStartingByDeviceId : OrderedMap String Nat
  attempts : Nat → Attempt
  nextAttempt : Nat
  /-- The calls of `device.startWatchClient`, by attempt, and whether they returned. -/
  calls : List (Nat × Bool)
  /-- The calls of `forceDisableAllClients` that await the startups they found. -/
  disabling : Nat → Option (List Nat)
  nextDisabling : Nat

inductive WatcherAct where
  | ensureClientWatcher (deviceId : String)
  /-- The next part of a startup: whether `forwards` succeeds and whether `device.startWatchClient`
  returns. -/
  | advance (attempt : Nat) (forwarded returns : Bool)
  | stopWatchClient (deviceId : String)
  | disconnectDevice (deviceId : String)
  | registerDevice (serial : String) (android manualConnect : Bool)
  | unregisterDevice (serial : String)
  | ownershipLost
  | ownershipAttached
  | forceDisableAllClients
  | resumeDisabling (disabling : Nat)
  | clearRuntimeState

namespace WatcherHost
variable (h : WatcherHost)

def initial : WatcherHost where
  devices := .empty
  nextDevice := 0
  legacyOwnershipAttached := false
  clientWatcherStartedDeviceIds := []
  clientWatcherStartingByDeviceId := .empty
  attempts := fun _ => ⟨"", ⟨0, false⟩, .settled, true⟩
  nextAttempt := 0
  calls := []
  disabling := fun _ => none
  nextDisabling := 0

def setPoint (k : Nat) (point : AttemptPoint) : WatcherHost :=
  { h with attempts := update h.attempts k { h.attempts k with point := point } }

def isCurrentAttempt (k : Nat) : Prop :=
  h.clientWatcherStartingByDeviceId.get? (h.attempts k).deviceId = some k

instance (k : Nat) : Decidable (h.isCurrentAttempt k) := inferInstanceAs (Decidable (_ = _))

def clearClientWatcherStartState (deviceId : String) : WatcherHost :=
  { h with
    clientWatcherStartedDeviceIds := h.clientWatcherStartedDeviceIds.filter (· ≠ deviceId)
    clientWatcherStartingByDeviceId := h.clientWatcherStartingByDeviceId.delete deviceId
    attempts := fun k =>
      if (h.attempts k).deviceId = deviceId then { h.attempts k with invalidated := true }
      else h.attempts k }

def clearAllClientWatcherStartState : WatcherHost :=
  { h with
    clientWatcherStartedDeviceIds := []
    clientWatcherStartingByDeviceId := .empty
    attempts := fun k => { h.attempts k with invalidated := true } }

def ensureClientWatcher (deviceId : String) : WatcherHost :=
  match h.devices.get? deviceId with
  | none => h
  | some device =>
    if h.legacyOwnershipAttached = false then h
    else if deviceId ∈ h.clientWatcherStartedDeviceIds then h
    else if h.clientWatcherStartingByDeviceId.has deviceId then h
    else
      { h with
        attempts := update h.attempts h.nextAttempt ⟨deviceId, device, .queued, false⟩
        nextAttempt := h.nextAttempt + 1
        clientWatcherStartingByDeviceId := h.clientWatcherStartingByDeviceId.set deviceId
          h.nextAttempt }

def callStart (k : Nat) (returns : Bool) : WatcherHost :=
  { h with calls := h.calls ++ [(k, returns)] }.setPoint k (if returns then .returned else .leaving)

def shouldStart (k : Nat) : Prop := h.legacyOwnershipAttached = true ∧ h.isCurrentAttempt k

instance (k : Nat) : Decidable (h.shouldStart k) := inferInstanceAs (Decidable (_ ∧ _))

def advance (k : Nat) (forwarded returns : Bool) : WatcherHost :=
  match (h.attempts k).point with
  | .queued =>
    if ¬ h.shouldStart k then h.setPoint k .returned
    else if (h.attempts k).device.android then h.setPoint k .forwarding
    else h.callStart k returns
  | .forwarding =>
    if forwarded = false then h.setPoint k .leaving
    else if ¬ h.shouldStart k then h.setPoint k .returned
    else h.callStart k returns
  | .returned =>
    if h.isCurrentAttempt k then
      { h with
        clientWatcherStartedDeviceIds :=
          insertLast (h.attempts k).deviceId h.clientWatcherStartedDeviceIds }.setPoint k .leaving
    else h.setPoint k .leaving
  | .leaving =>
    if h.isCurrentAttempt k then
      { h with
        clientWatcherStartingByDeviceId :=
          h.clientWatcherStartingByDeviceId.delete (h.attempts k).deviceId }.setPoint k .settled
    else h.setPoint k .settled
  | .settled => h

def registerDevice (serial : String) (android manualConnect : Bool) : WatcherHost :=
  if h.devices.has serial then h
  else
    let h := { h with
      devices := h.devices.set serial ⟨h.nextDevice, android⟩
      nextDevice := h.nextDevice + 1 }
    if h.legacyOwnershipAttached ∧ manualConnect = false then h.ensureClientWatcher serial else h

def unregisterDevice (serial : String) : WatcherHost :=
  if h.devices.has serial = false then h
  else
    let h := { h with devices := h.devices.delete serial }
    if h.legacyOwnershipAttached then h.clearClientWatcherStartState serial else h

def ownershipLost : WatcherHost :=
  if h.legacyOwnershipAttached then
    { h with legacyOwnershipAttached := false }.clearAllClientWatcherStartState
  else h

def forceDisableAllClients : WatcherHost :=
  { h with
    disabling := update h.disabling h.nextDisabling (some h.clientWatcherStartingByDeviceId.values)
    nextDisabling := h.nextDisabling + 1 }

def allSettled (found : List Nat) : Prop := ∀ k ∈ found, (h.attempts k).point = .settled

instance (found : List Nat) : Decidable (h.allSettled found) :=
  inferInstanceAs (Decidable (∀ k ∈ found, _))

def resumeDisabling (i : Nat) : WatcherHost :=
  match h.disabling i with
  | none => h
  | some found =>
    if h.allSettled found then
      { h with disabling := update h.disabling i none }.clearAllClientWatcherStartState
    else h

def step : WatcherAct → WatcherHost
  | .ensureClientWatcher deviceId => h.ensureClientWatcher deviceId
  | .advance k forwarded returns => h.advance k forwarded returns
  | .stopWatchClient deviceId => h.clearClientWatcherStartState deviceId
  | .disconnectDevice deviceId => h.clearClientWatcherStartState deviceId
  | .registerDevice serial android manualConnect => h.registerDevice serial android manualConnect
  | .unregisterDevice serial => h.unregisterDevice serial
  | .ownershipLost => h.ownershipLost
  | .ownershipAttached => { h with legacyOwnershipAttached := true }
  | .forceDisableAllClients => h.forceDisableAllClients
  | .resumeDisabling i => h.resumeDisabling i
  | .clearRuntimeState => h.clearAllClientWatcherStartState

end WatcherHost

end DebugRouter.Daemon
