import Mathlib.Data.List.Basic

/-!
`WebSocketClient` with its work thread and the thread of the current `WebSocketTask`. What a call
into the network returned is given to the step that waits for it. A notification of the delegate,
with the flag that guards it, is one step.
-/
namespace DebugRouter.Native

structure Failure where
  message : String
  code : Int
  deriving DecidableEq

inductive TaskPhase where
  | submitted
  | begun
  | connecting
  | opening
  | reading
  /-- In `onFailure`, before `NotifyFailureOnce`; `opened` tells `do_read` from `do_connect`. -/
  | failing (opened : Bool) (failure : Failure)
  | failed (opened : Bool)
  | closing
  | finished
  deriving DecidableEq

structure WebSocketTask where
  url : String
  phase : TaskPhase
  isConnected : Bool
  stopping : Bool
  failureReported : Bool
  closedReported : Bool
  deriving DecidableEq

inductive Callback where
  | onOpen
  | onClosed
  | onFailure (failure : Failure)
  deriving DecidableEq

namespace WebSocketTask
variable (t : WebSocketTask)

def fresh (url : String) : WebSocketTask := ⟨url, .submitted, false, false, false, false⟩

def notifyFailureOnce (failure : Failure) : WebSocketTask × Option Callback :=
  if t.failureReported then (t, none)
  else ({ t with failureReported := true }, some (.onFailure failure))

def notifyClosedOnce : WebSocketTask × Option Callback :=
  if t.closedReported then (t, none)
  else if t.isConnected then
    ({ t with closedReported := true, isConnected := false }, some .onClosed)
  else ({ t with closedReported := true }, none)

def step (failure : Option Failure) : WebSocketTask × Option Callback :=
  match t.phase, failure with
  | .submitted, _ => ({ t with phase := .begun }, none)
  | .begun, _ => (⟨t.url, .connecting, false, false, false, false⟩, none)
  | .connecting, none => ({ t with phase := .opening }, none)
  | .connecting, some f => ({ t with phase := .failing false f, stopping := true }, none)
  | .opening, _ =>
    if t.stopping then ({ t with phase := .reading }, none)
    else ({ t with phase := .reading, isConnected := true }, some .onOpen)
  | .reading, none => (t, none)
  | .reading, some f => ({ t with phase := .failing true f, stopping := true }, none)
  | .failing opened f, _ =>
    let (notified, callback) := t.notifyFailureOnce f
    ({ notified with phase := .failed opened }, callback)
  | .failed opened, _ =>
    let (notified, callback) := t.notifyClosedOnce
    ({ notified with phase := if opened then .closing else .finished }, callback)
  | .closing, _ =>
    let (notified, callback) := t.notifyClosedOnce
    ({ notified with phase := .finished }, callback)
  | .finished, _ => (t, none)

/-- The log level, the session filter or the receiver throws at the message just read. The executor
of the thread swallows it: the loop is left and nothing is reported. -/
def throwMessage : WebSocketTask :=
  if t.phase = .reading then { t with phase := .finished } else t

end WebSocketTask

inductive Job where
  | connect (url : String)
  | disconnect
  | send (data : String)
  deriving DecidableEq

/-- What the work thread does next. `next` is the connection to open once the old task is gone. -/
inductive WorkerPhase where
  | idle
  | stopping (next : Option String)
  | notifying (next : Option String)
  | joining (next : Option String)
  | sendFailing (failure : Failure)
  | sendFailed
  deriving DecidableEq

structure WebSocketClient where
  jobs : List Job
  worker : WorkerPhase
  currentTask : Option WebSocketTask
  deriving DecidableEq

namespace WebSocketClient
variable (w : WebSocketClient)

def initial : WebSocketClient := ⟨[], .idle, none⟩

def submit (job : Job) : WebSocketClient := { w with jobs := w.jobs ++ [job] }

def connectInternal : Option String → WebSocketClient
  | none => { w with worker := .idle }
  | some url => { w with worker := .idle, currentTask := some (.fresh url) }

/-- The work thread takes the next job. `DisconnectInternal` starts with `Stop` when there is a
task; `SendInternal` drops what comes for a connection that is being closed. -/
def takeJob (failure : Option Failure) : WebSocketClient :=
  match w.jobs, w.currentTask with
  | [], _ => w
  | .connect url :: rest, none => { w with jobs := rest }.connectInternal (some url)
  | .connect url :: rest, some _ => { w with jobs := rest, worker := .stopping (some url) }
  | .disconnect :: rest, none => { w with jobs := rest }
  | .disconnect :: rest, some _ => { w with jobs := rest, worker := .stopping none }
  | .send _ :: rest, none => { w with jobs := rest }
  | .send _ :: rest, some task =>
    match failure with
    | none => { w with jobs := rest }
    | some f =>
      if task.stopping then { w with jobs := rest }
      else { w with
        jobs := rest, worker := .sendFailing f, currentTask := some { task with stopping := true } }

def stepWorker (failure : Option Failure) : WebSocketClient × Option Callback :=
  match w.worker, w.currentTask with
  | .idle, _ => (w.takeJob failure, none)
  | .stopping next, some task =>
    ({ w with worker := .notifying next, currentTask := some { task with stopping := true } }, none)
  | .notifying next, some task =>
    let (notified, callback) := task.notifyClosedOnce
    ({ w with worker := .joining next, currentTask := some notified }, callback)
  | .joining next, some task =>
    -- `shutdown` drops a `StartInternal` the thread has not taken and joins the thread otherwise.
    if task.phase = .submitted ∨ task.phase = .finished then
      ({ w with currentTask := none }.connectInternal next, none)
    else (w, none)
  | .sendFailing f, some task =>
    let (notified, callback) := task.notifyFailureOnce f
    ({ w with worker := .sendFailed, currentTask := some notified }, callback)
  | .sendFailed, some task =>
    let (notified, callback) := task.notifyClosedOnce
    ({ w with worker := .idle, currentTask := some notified }, callback)
  | _, none => (w, none)

def stepTask (failure : Option Failure) : WebSocketClient × Option Callback :=
  match w.currentTask with
  | none => (w, none)
  | some task =>
    let (moved, callback) := task.step failure
    ({ w with currentTask := some moved }, callback)

def throwMessage : WebSocketClient :=
  { w with currentTask := w.currentTask.map WebSocketTask.throwMessage }

end WebSocketClient

end DebugRouter.Native
