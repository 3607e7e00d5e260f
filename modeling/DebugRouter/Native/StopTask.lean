import DebugRouter.Library.Runs

/-!
`Stop` against the thread of a `WebSocketTask`. The thread takes its task, forgets any earlier stop,
connects and reads; `Stop` sets the flag, shuts the socket that is there and joins the thread.
-/
namespace DebugRouter.Native.TaskStop

open Library

/-- Where the thread is: in `StartInternal`, `do_connect`, `onOpen` between the load and the call,
and `do_read`. -/
inductive TaskPoint where
  | queued | reset | create | connect | handshake | opened | report | read | deliver | finished
  deriving DecidableEq

/-- In `Stop`: the store and the shutdown of `BeginTransportShutdown`, and `shutdown`. -/
inductive StopPoint where
  | idle | stored | shut | joining
  deriving DecidableEq

/-- What a call of the system comes to. A message that is dropped is `more` to read. -/
inductive TaskOutcome where
  | failed | more | complete

inductive TaskCallback where
  | onOpen | onMessage
  deriving DecidableEq

inductive TaskAct where
  | task (outcome : TaskOutcome)
  | stop

/-- `late` are the callbacks after `BeginTransportShutdown`. -/
structure TaskRun where
  stopping : Bool
  socketOpen : Bool
  thread : TaskPoint
  stop : StopPoint
  late : List TaskCallback

namespace TaskRun
variable (s : TaskRun)

def initial : TaskRun := ⟨false, false, .queued, .idle, []⟩

def isShut : Bool := s.stop = .shut ∨ s.stop = .joining

def onFailure : TaskRun := { s with stopping := true, socketOpen := false, thread := .finished }

def recv (outcome : TaskOutcome) (next : TaskPoint) : TaskRun :=
  if s.socketOpen then
    match outcome with
    | .failed => s.onFailure
    | .more => s
    | .complete => { s with thread := next }
  else s.onFailure

def call (callback : TaskCallback) : TaskRun :=
  { s with late := if s.isShut then s.late ++ [callback] else s.late, thread := .read }

def step : TaskAct → TaskRun
  | .task outcome =>
    match s.thread with
    | .queued => { s with thread := .reset }
    | .reset => { s with stopping := false, thread := .create }
    | .create => { s with thread := .connect }
    | .connect => match outcome with
      | .failed => s.onFailure
      | _ => { s with socketOpen := true, thread := .handshake }
    | .handshake => s.recv outcome .opened
    | .opened => { s with thread := if s.stopping then .read else .report }
    | .report => s.call .onOpen
    | .read => s.recv outcome .deliver
    | .deliver => s.call .onMessage
    | .finished => s
  | .stop =>
    match s.stop with
    | .idle => { s with stopping := true, stop := .stored }
    | .stored => { s with socketOpen := false, stop := .shut }
    -- a task that was not taken is dropped from the queue
    | .shut =>
      { s with stop := .joining, thread := if s.thread = .queued then .finished else s.thread }
    | .joining => s

/-- No callback comes late, and `Stop` does not wait for a thread that waits for an open socket. -/
def Ended : Prop :=
  s.late = [] ∧ ¬ (s.stop = .joining ∧ (s.thread = .handshake ∨ s.thread = .read) ∧
    s.socketOpen = true)

def settled : Bool :=
  s.thread ≠ .queued ∧ s.thread ≠ .reset ∧ s.thread ≠ .create ∧ s.thread ≠ .connect

/-- `Stop` begins when the socket is installed, or with a task that nobody takes any more; and it
shuts the socket when the thread is not about to make a call. -/
def InTime : TaskAct → Prop
  | .task _ => s.thread = .queued → s.stop = .idle
  | .stop => (s.stop = .idle → s.thread = .queued ∨ s.settled = true) ∧
      (s.stop = .stored → s.thread ≠ .report ∧ s.thread ≠ .deliver)

structure Kept : Prop where
  late : s.late = []
  begun : s.stop ≠ .idle → s.stopping = true ∧ (s.thread = .queued ∨ s.settled = true)
  shut : s.isShut = true → s.socketOpen = false ∧ s.thread ≠ .report ∧ s.thread ≠ .deliver

variable {s}

theorem Kept.onFailure (h : s.Kept) : s.onFailure.Kept :=
  ⟨h.late, fun _ => ⟨rfl, .inr rfl⟩, fun _ => ⟨rfl, nofun, nofun⟩⟩

theorem Kept.idle (h : s.Kept) (hq : s.thread ≠ .queued) (hs : s.settled = false) : s.stop = .idle :=
  not_not.mp fun hb => (h.begun hb).2.elim hq (by simp [hs])

theorem Kept.of_idle (late : s.late = []) (hi : s.stop = .idle) : s.Kept :=
  ⟨late, fun hb => absurd hi hb, fun hs => by simp [isShut, hi] at hs⟩

variable {next : TaskPoint}

theorem Kept.goOn (h : s.Kept) (hn : settled { s with thread := next } = true)
    (hc : s.isShut = true → next ≠ .report ∧ next ≠ .deliver) : Kept { s with thread := next } :=
  ⟨h.late, fun hb => ⟨(h.begun hb).1, .inr hn⟩, fun hd => ⟨(h.shut hd).1, hc hd⟩⟩

theorem Kept.recv (h : s.Kept) {out : TaskOutcome}
    (hn : settled { s with thread := next } = true) : (s.recv out next).Kept := by
  unfold TaskRun.recv
  split
  next ho =>
    cases out with
    | failed => exact h.onFailure
    | more => exact h
    | complete => exact h.goOn hn fun hd => by simp [(h.shut hd).1] at ho
  · exact h.onFailure

theorem Kept.call (h : s.Kept) (hd : s.isShut = false) {callback : TaskCallback} :
    (s.call callback).Kept := by
  have hr : Kept { s with thread := .read } := h.goOn rfl fun _ => ⟨nofun, nofun⟩
  simpa [TaskRun.call, hd] using hr

theorem Kept.step (h : s.Kept) (a : TaskAct) (ha : s.InTime a) : (s.step a).Kept := by
  cases a with
  | task out =>
    dsimp only [TaskRun.step]
    cases ht : s.thread with
    | queued => exact .of_idle h.late (ha ht)
    | reset | create => exact .of_idle h.late (h.idle (by simp [ht]) (by simp [settled, ht]))
    | connect =>
      have hi := h.idle (by simp [ht]) (by simp [settled, ht])
      cases out with
      | failed => exact h.onFailure
      | more | complete => exact .of_idle h.late hi
    | handshake => exact h.recv rfl
    | opened =>
      refine h.goOn (by split <;> rfl) fun hd => ?_
      rw [(h.begun fun hi => by simp [isShut, hi] at hd).1]
      exact ⟨nofun, nofun⟩
    | report => exact h.call (Bool.eq_false_iff.mpr fun hd => (h.shut hd).2.1 ht)
    | read => exact h.recv rfl
    | deliver => exact h.call (Bool.eq_false_iff.mpr fun hd => (h.shut hd).2.2 ht)
    | finished => exact h
  | stop =>
    dsimp only [TaskRun.step]
    cases hs : s.stop with
    | idle => exact ⟨h.late, fun _ => ⟨rfl, ha.1 hs⟩, nofun⟩
    | stored => exact ⟨h.late, fun _ => h.begun (by simp [hs]), fun _ => ⟨rfl, ha.2 hs⟩⟩
    | shut =>
      obtain ⟨hb, ht⟩ := h.begun (by simp [hs])
      obtain ⟨ho, hc⟩ := h.shut (by simp [isShut, hs])
      dsimp only
      split
      · exact ⟨h.late, fun _ => ⟨hb, .inr rfl⟩, fun _ => ⟨ho, nofun, nofun⟩⟩
      · exact ⟨h.late, fun _ => ⟨hb, ht⟩, fun _ => ⟨ho, hc⟩⟩
    | joining => exact h

theorem stop_ends (acts : List TaskAct) (ha : Along step InTime initial acts) :
    Throughout step Ended initial acts := by
  refine throughout_mono (fun s h => ?_)
    (throughout_of_along (fun s a (h : s.Kept) => h.step a) ⟨rfl, nofun, nofun⟩ ha)
  refine ⟨h.late, fun ⟨hj, _, ho⟩ => ?_⟩
  simp [(h.shut (by simp [isShut, hj])).1] at ho

theorem stop_ends_reading : Throughout step Ended initial
    [.task .more, .task .more, .task .more, .task .complete, .stop, .task .complete, .stop, .stop,
      .task .more] :=
  stop_ends _ (by simp [Along, InTime, step, initial, settled, recv])

/-- The connection comes up after `Stop` has shut the socket that was there. -/
theorem stop_waits :
    ¬ Ended (([.task .more, .task .more, .task .more, .stop, .stop, .stop, .task .complete] :
    List TaskAct).foldl step initial) := by
  simp [Ended, step, initial]

end TaskRun

end DebugRouter.Native.TaskStop
