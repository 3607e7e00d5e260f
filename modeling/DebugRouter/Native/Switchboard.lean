import DebugRouter.Library.Threads

/-!
The switches of the native core and the executor they share with everything else. Each atomic
operation of `EnableAllSessions`, `EnableDebugChannel`, `DisableDebugChannel`, `UpdateServerState`
and of the task it posts is one step; a call or the task stands before its next operation.
-/
namespace DebugRouter.Native

open Library

inductive Switch where
  | enableAllSessions
  | enableDebugChannel
  | disableDebugChannel
  deriving DecidableEq

/-- The next operation of a call, down to the `Post` in `UpdateServerState`. -/
inductive CallPoint where
  | exchangeSwitch (switch : Switch)
  | loadAllSessions
  | readTransceiver
  | storeDisconnected
  | storeDirty
  | exchangeScheduled
  | post
  deriving DecidableEq

inductive TaskPoint where
  | clearDirty
  | loadAllSessions
  | loadDebugChannel
  | exchangeRunning (shouldRun : Bool)
  | closeUsb (shouldRun : Bool)
  | applyServers (shouldRun : Bool)
  | loadDirty
  | clearScheduled
  | reloadDirty
  | exchangeScheduled
  deriving DecidableEq

inductive Posted (T : Type) where
  | update
  | other (task : T)
  deriving DecidableEq

namespace Posted
variable {T : Type}

def isUpdate : Posted T → Bool
  | update => true
  | other _ => false

@[simp] theorem isUpdate_update : (update : Posted T).isUpdate = true := rfl

@[simp] theorem isUpdate_other (task : T) : (other task).isUpdate = false := rfl

end Posted

structure Switchboard (T : Type) where
  enableAllSessions : Bool
  debugChannelEnabled : Bool
  serverRunning : Bool
  serverStateUpdateDirty : Bool
  serverStateUpdateScheduled : Bool
  calls : List CallPoint
  queue : List (Posted T)
  task : Option TaskPoint
  /-- `StartServer` (`true`) and `StopServer` (`false`) on the transceivers, in order. -/
  served : List Bool

inductive BoardAct (T : Type) where
  | call (switch : Switch)
  /-- A call performs its next operation; `usbCurrent` is what it finds in `current_transceiver_`. -/
  | advance (i : Nat) (usbCurrent : Bool)
  /-- Anything else posts a task of its own. -/
  | post (task : T)
  | take
  | work

namespace Switchboard
variable {T : Type} (b : Switchboard T)

def initial : Switchboard T := ⟨false, false, false, false, false, [], [], none, []⟩

def shouldServerRun : Bool := b.enableAllSessions || b.debugChannelEnabled

/-- One operation of a call, and where the call goes on (`none`: it returns). -/
def perform (usbCurrent : Bool) : CallPoint → Switchboard T × Option CallPoint
  | .exchangeSwitch .enableAllSessions =>
    if b.enableAllSessions then (b, none)
    else ({ b with enableAllSessions := true }, some .storeDirty)
  | .exchangeSwitch .enableDebugChannel =>
    if b.debugChannelEnabled then (b, none)
    else ({ b with debugChannelEnabled := true }, some .storeDirty)
  | .exchangeSwitch .disableDebugChannel =>
    if b.debugChannelEnabled then ({ b with debugChannelEnabled := false }, some .loadAllSessions)
    else (b, none)
  | .loadAllSessions => (b, some (if b.enableAllSessions then .storeDirty else .readTransceiver))
  | .readTransceiver => (b, some (if usbCurrent then .storeDisconnected else .storeDirty))
  | .storeDisconnected => (b, some .storeDirty)
  | .storeDirty => ({ b with serverStateUpdateDirty := true }, some .exchangeScheduled)
  | .exchangeScheduled =>
    if b.serverStateUpdateScheduled then (b, none)
    else ({ b with serverStateUpdateScheduled := true }, some .post)
  | .post => ({ b with queue := b.queue ++ [.update] }, none)

def advance (i : Nat) (usbCurrent : Bool) : Switchboard T :=
  match b.calls[i]? with
  | none => b
  | some point =>
    let (after, next) := b.perform usbCurrent point
    { after with calls := moveThread b.calls i next }

/-- One operation of the update task, and where it goes on (`none`: it breaks out of its loop). -/
def performTask : TaskPoint → Switchboard T × Option TaskPoint
  | .clearDirty => ({ b with serverStateUpdateDirty := false }, some .loadAllSessions)
  | .loadAllSessions =>
    (b, some (if b.enableAllSessions then .exchangeRunning true else .loadDebugChannel))
  | .loadDebugChannel => (b, some (.exchangeRunning b.debugChannelEnabled))
  | .exchangeRunning shouldRun =>
    ({ b with serverRunning := shouldRun },
      some (if b.serverRunning = shouldRun then .loadDirty else .closeUsb shouldRun))
  | .closeUsb shouldRun => (b, some (.applyServers shouldRun))
  | .applyServers shouldRun => ({ b with served := b.served ++ [shouldRun] }, some .loadDirty)
  | .loadDirty => (b, some (if b.serverStateUpdateDirty then .clearDirty else .clearScheduled))
  | .clearScheduled => ({ b with serverStateUpdateScheduled := false }, some .reloadDirty)
  | .reloadDirty => (b, if b.serverStateUpdateDirty then some .exchangeScheduled else none)
  | .exchangeScheduled =>
    if b.serverStateUpdateScheduled then (b, none)
    else ({ b with serverStateUpdateScheduled := true }, some .clearDirty)

def work : Switchboard T :=
  match b.task with
  | none => b
  | some point =>
    let (after, next) := b.performTask point
    { after with task := next }

/-- The executor runs one task at a time: nothing is taken while the update task runs. -/
def take : Switchboard T :=
  match b.task, b.queue with
  | none, .update :: rest => { b with queue := rest, task := some .clearDirty }
  | none, .other _ :: rest => { b with queue := rest }
  | _, _ => b

def post (task : T) : Switchboard T := { b with queue := b.queue ++ [.other task] }

def step : BoardAct T → Switchboard T
  | .call switch => { b with calls := b.calls ++ [.exchangeSwitch switch] }
  | .advance i usbCurrent => b.advance i usbCurrent
  | .post task => b.post task
  | .take => b.take
  | .work => b.work

theorem mem_take_queue {task : Posted T} (h : task ∈ b.take.queue) : task ∈ b.queue := by
  unfold take at h
  split at h
  next hr hw => exact hw ▸ List.mem_cons_of_mem _ h
  next hr hw => exact hw ▸ List.mem_cons_of_mem _ h
  · exact h

theorem take_task : b.take.task = b.task ∨ b.take.task = some .clearDirty := by
  unfold take
  split
  · exact .inr rfl
  · exact .inl rfl
  · exact .inl rfl

variable (usbCurrent : Bool) (i : Nat)

theorem perform_queue (pt : CallPoint) :
    ∃ posted, (b.perform usbCurrent pt).1.queue = b.queue ++ posted ∧
    ∀ task ∈ posted, task = .update := by
  cases pt with
  | exchangeSwitch switch => cases switch <;> simp only [perform] <;> split <;> exact ⟨[], by simp⟩
  | exchangeScheduled => simp only [perform]; split <;> exact ⟨[], by simp⟩
  | post => exact ⟨[.update], rfl, by simp⟩
  | loadAllSessions | readTransceiver | storeDisconnected | storeDirty =>
    exact ⟨[], by simp [perform]⟩

theorem advance_queue (usbCurrent : Bool) :
    ∃ posted, (b.advance i usbCurrent).queue = b.queue ++ posted ∧
      ∀ task ∈ posted, task = .update := by
  unfold advance
  split
  · exact ⟨[], by simp⟩
  · exact b.perform_queue usbCurrent _

theorem perform_frame (pt : CallPoint) : (b.perform usbCurrent pt).1.task = b.task ∧
      (b.perform usbCurrent pt).1.served = b.served ∧
      (b.perform usbCurrent pt).1.serverRunning = b.serverRunning := by
  cases pt with
  | exchangeSwitch switch => cases switch <;> simp only [perform] <;> split <;> simp
  | exchangeScheduled => simp only [perform]; split <;> simp
  | loadAllSessions | readTransceiver | storeDisconnected | storeDirty | post => simp [perform]

theorem advance_task (usbCurrent : Bool) : (b.advance i usbCurrent).task = b.task := by
  unfold advance
  split
  · rfl
  · exact (b.perform_frame usbCurrent _).1

theorem work_applies {shouldRun : Bool} (h : b.work.task = some (.applyServers shouldRun)) :
    b.task = some (.closeUsb shouldRun) := by
  unfold work at h
  split at h
  next hr => simp [hr] at h
  next pt hh =>
    cases pt with
    | closeUsb before => simpa [hh, performTask] using h
    | loadAllSessions | exchangeRunning | loadDirty | reloadDirty | exchangeScheduled =>
      simp only [performTask] at h
      split at h <;> simp at h
    | clearDirty | loadDebugChannel | applyServers | clearScheduled => simp [performTask] at h

theorem work_queue : b.work.queue = b.queue := by
  unfold work
  split
  · rfl
  next pt hh =>
    cases pt with
    | exchangeScheduled => simp only [performTask]; split <;> rfl
    | clearDirty | loadAllSessions | loadDebugChannel | exchangeRunning | closeUsb | applyServers
    | loadDirty | clearScheduled | reloadDirty => rfl

def Idle : Prop := b.calls = [] ∧ b.task = none ∧ ∀ task ∈ b.queue, task.isUpdate = false

end Switchboard

end DebugRouter.Native
