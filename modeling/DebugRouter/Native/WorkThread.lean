import DebugRouter.Library.Runs

/-!
The thread and the task queue of `WorkThreadExecutor`. Callers of `init`, `submit` and `shutdown`
and the worker interleave freely; `is_shut_down` is set without the lock, so it may change inside
every locked section. Taking the lock and the first load under it are one step.
-/
namespace DebugRouter.Native

open Library

/-- Where the worker is in `run`. It holds `task_mtx` at `held` and `taking`. -/
inductive WorkPoint (T : Type*) where
  | absent | top | entry | asleep | held | taking
  | running (task : T)
  | exited
  deriving DecidableEq

/-- The calls that take `task_mtx` and leave it again. -/
inductive LockedCall (T : Type*) where
  | init
  | submit (task : T)
  deriving DecidableEq

/-- The one `shutdown` whose exchange of the flag succeeded. -/
inductive ShutdownPoint where
  | idle | flagged | cleared | notified | returned
  deriving DecidableEq

inductive ExecutorAct (T : Type*) where
  | enter (call : LockedCall T)
  | leave
  | shutdown (byWorker : Bool)
  | goOn
  | work
  | wakeUp

/-- `accepted` are the tasks that were pushed and `started` those that were called, in this order. -/
structure WorkThreadExecutor (T : Type*) where
  isShutDown : Bool
  tasks : List T
  worker : Bool
  thread : WorkPoint T
  inside : Option (LockedCall T)
  stop : ShutdownPoint
  byWorker : Bool
  workerPtr : Bool
  accepted : List T
  started : List T

/-- What `notify_one` and `notify_all` do: only the worker waits. -/
def WorkPoint.woken {T : Type*} : WorkPoint T → WorkPoint T
  | .asleep => .entry
  | point => point

def WorkPoint.isRunning {T : Type*} : WorkPoint T → Bool
  | .running _ => true
  | _ => false

def WorkPoint.isExited {T : Type*} : WorkPoint T → Bool
  | .exited => true
  | _ => false

def WorkPoint.inHand {T : Type*} : WorkPoint T → Nat
  | .taking => 1
  | _ => 0

namespace WorkThreadExecutor
variable {T : Type*} (s : WorkThreadExecutor T)

def initial : WorkThreadExecutor T := ⟨false, [], false, .absent, none, .idle, false, false, [], []⟩

def lockFree : Bool := s.inside.isNone && match s.thread with
  | .held | .taking => false
  | _ => true

def isCleared : Bool := s.stop ≠ .idle ∧ s.stop ≠ .flagged

def run : WorkThreadExecutor T :=
  match s.thread with
  | .top => { s with thread := if s.isShutDown then .exited else .entry }
  | .entry =>
    if s.lockFree then
      { s with thread := if s.tasks.isEmpty && !s.isShutDown then .asleep else .held }
    else s
  | .held => { s with thread := if s.isShutDown then .exited else .taking }
  | .taking => match s.tasks with
    | [] => { s with thread := .top }
    | task :: rest =>
      { s with tasks := rest, thread := .running task, started := s.started ++ [task] }
  -- a task that calls `shutdown` comes back from it first
  | .running _ => if s.byWorker ∧ s.stop ≠ .returned then s else { s with thread := .top }
  | .absent | .asleep | .exited => s

def shutdown : WorkThreadExecutor T :=
  match s.stop with
  | .flagged =>
    if s.lockFree then
      { s with tasks := [], worker := false, workerPtr := s.worker, stop := .cleared }
    else s
  | .cleared => { s with thread := s.thread.woken, stop := .notified }
  -- `join`, or `detach` on the worker itself
  | .notified =>
    if s.workerPtr && !s.byWorker && !s.thread.isExited then s else { s with stop := .returned }
  | .idle | .returned => s

def step : ExecutorAct T → WorkThreadExecutor T
  -- the load before the lock reads the same flag, which is never cleared
  | .enter call => if !s.isShutDown && s.lockFree then { s with inside := some call } else s
  | .leave => match s.inside with
    | none => s
    | some .init =>
      { s with inside := none, worker := true, thread := if s.worker then s.thread else .top }
    | some (.submit task) =>
      { s with
        inside := none, tasks := s.tasks ++ [task], accepted := s.accepted ++ [task],
        thread := s.thread.woken }
  | .shutdown byWorker =>
    if s.isShutDown || byWorker && !s.thread.isRunning then s
    else { s with isShutDown := true, stop := .flagged, byWorker := byWorker }
  | .goOn => s.shutdown
  | .work => s.run
  -- `wait` may return without a notification
  | .wakeUp => { s with thread := s.thread.woken }

structure Sound : Prop where
  flag : s.isShutDown = false ↔ s.stop = .idle
  mutex : s.inside ≠ none → s.thread ≠ .held ∧ s.thread ≠ .taking
  asleep : s.thread = .asleep → s.tasks = [] ∧ s.stop ≠ .notified ∧ s.stop ≠ .returned
  filled : s.isCleared = false →
    s.accepted = s.started ++ s.tasks ∧ (s.worker = true ↔ s.thread ≠ .absent)
  cleared : s.isCleared = true →
    s.tasks = [] ∧ s.started <+: s.accepted ∧ s.inside = none ∧ s.thread ≠ .taking ∧
    (s.workerPtr = true ↔ s.thread ≠ .absent)
  joined : s.stop = .returned → s.byWorker = false → s.thread = .absent ∨ s.thread = .exited

variable {s} {p : WorkPoint T}

theorem Sound.initial : (initial : WorkThreadExecutor T).Sound := by
  constructor <;> simp [WorkThreadExecutor.initial, isCleared]

theorem lockFree_iff :
    s.lockFree = true ↔ s.inside = none ∧ s.thread ≠ .held ∧ s.thread ≠ .taking := by
  unfold lockFree
  cases s.inside <;> cases s.thread <;> simp

theorem woken_of_ne (hp : p ≠ .asleep) : p.woken = p := by
  cases p <;> first | rfl | exact absurd rfl hp

theorem woken_ne_asleep : p.woken ≠ .asleep := by
  cases p <;> simp [WorkPoint.woken]

/-- The thread is there and goes on, and nothing else changes. -/
theorem Sound.moved (h : s.Sound) {next : WorkPoint T} (ht : s.thread ≠ .absent ∧ s.thread ≠ .exited)
    (hn : next ≠ .absent) (hl : next = .held ∨ next = .taking → s.inside = none)
    (hs : next = .taking ∨ next = .asleep → s.isShutDown = false)
    (he : next = .asleep → s.tasks = []) :
    Sound { s with thread := next } := by
  have hi : s.isCleared = true → s.isShutDown = true := by
    have := h.flag
    grind [isCleared]
  refine ⟨h.flag, ?_, ?_, ?_, ?_, ?_⟩
  · grind [h.mutex]
  · grind [h.flag]
  · grind [h.filled, isCleared]
  · grind [h.cleared, isCleared]
  · grind [h.joined]

theorem Sound.woken (h : s.Sound) : Sound { s with thread := s.thread.woken } := by
  by_cases ht : s.thread = .asleep
  · rw [ht]
    exact h.moved (by simp [ht]) (by simp [WorkPoint.woken]) (by simp [WorkPoint.woken])
      (by simp [WorkPoint.woken])
      (by simp [WorkPoint.woken])
  · rwa [woken_of_ne ht]

theorem Sound.isShutDown (h : s.Sound) (hp : s.stop ≠ .idle) : s.isShutDown = true :=
  eq_true_of_ne_false fun hd => hp (h.flag.mp hd)

theorem Sound.run (h : s.Sound) : s.run.Sound := by
  unfold WorkThreadExecutor.run
  cases ht : s.thread with
  | absent => exact h
  | top => exact h.moved (by simp [ht]) (by grind) (by grind) (by grind) (by grind)
  | entry =>
    dsimp only
    split
    next hf =>
      exact h.moved (by simp [ht]) (by grind) (fun _ => (lockFree_iff.mp hf).1) (by grind)
        (by grind)
    · exact h
  | asleep => exact h
  | held =>
    have hm := h.mutex
    exact h.moved (by simp [ht]) (by grind) (by grind) (by grind) (by grind)
  | taking =>
    obtain ⟨_, hm, ha, hf, hc, hj⟩ := h
    dsimp only
    split <;> constructor <;> grind [isCleared]
  | running task =>
    dsimp only
    split
    · exact h
    · exact h.moved (by simp [ht]) (by grind) (by grind) (by grind) (by grind)
  | exited => exact h

theorem Sound.shutdown (h : s.Sound) : s.shutdown.Sound := by
  unfold WorkThreadExecutor.shutdown
  cases hp : s.stop with
  | idle => exact h
  | flagged =>
    dsimp only
    split
    · obtain ⟨_, _, ha, hf, _, _⟩ := h
      constructor <;> grind [isCleared, lockFree_iff]
    · exact h
  | cleared =>
    obtain ⟨_, _, _, _, hc, _⟩ := h.woken
    constructor <;> grind [isCleared, woken_ne_asleep]
  | notified =>
    dsimp only
    split
    · exact h
    · obtain ⟨_, hm, ha, _, hc, _⟩ := h
      constructor <;> grind [isCleared, WorkPoint.isExited]
  | returned => exact h

theorem Sound.leave (h : s.Sound) : (s.step .leave).Sound := by
  dsimp only [WorkThreadExecutor.step]
  split
  · exact h
  · obtain ⟨_, hm, ha, hf, hc, _⟩ := h
    constructor <;> grind [isCleared]
  · obtain ⟨_, _, _, _, _, _⟩ := h.woken
    have hc := h.cleared
    constructor <;> grind [isCleared, woken_ne_asleep]

theorem Sound.step (h : s.Sound) (act : ExecutorAct T) : (s.step act).Sound := by
  cases act with
  | enter call =>
    dsimp only [WorkThreadExecutor.step]
    split
    · obtain ⟨_, _, _, _, hc, _⟩ := h
      constructor <;> grind [isCleared, lockFree_iff]
    · exact h
  | leave => exact h.leave
  | shutdown byWorker =>
    dsimp only [WorkThreadExecutor.step]
    split
    · exact h
    · obtain ⟨_, _, _, hf, _, _⟩ := h
      constructor <;> grind [isCleared]
  | goOn => exact h.shutdown
  | work => exact h.run
  | wakeUp => exact h.woken

theorem sound_reached (acts : List (ExecutorAct T)) : Throughout step Sound initial acts :=
  throughout_of_invariant (fun _ act h => h.step act) .initial acts

/-- Tasks are called in the order in which they were pushed, each once; before `shutdown` has the
lock none is lost. -/
theorem tasks_in_order (acts : List (ExecutorAct T)) :
    Throughout step (fun s => s.started <+: s.accepted ∧
      (s.isCleared = false → s.accepted = s.started ++ s.tasks))
      initial acts := by
  refine throughout_mono (fun s h => ?_) (sound_reached acts)
  cases hc : s.isCleared with
  | false => exact ⟨⟨s.tasks, (h.filled hc).1.symm⟩, fun _ => (h.filled hc).1⟩
  | true => exact ⟨(h.cleared hc).2.1, by simp⟩

/-- The worker waits only without a task, and a `shutdown` it has not seen still has its
notification to send. -/
theorem sleeps_without_work (acts : List (ExecutorAct T)) :
    Throughout step (fun s => s.thread = .asleep → s.tasks = [] ∧
      (s.isShutDown = true → s.stop = .flagged ∨ s.stop = .cleared)) initial acts := by
  refine throughout_mono (fun s h ht => ⟨(h.asleep ht).1, fun hd => ?_⟩) (sound_reached acts)
  obtain ⟨_, hn, hr⟩ := h.asleep ht
  have hi := h.flag
  cases hp : s.stop <;> simp_all

theorem isShutDown_step (hd : s.isShutDown = true) (act : ExecutorAct T) :
    (s.step act).isShutDown = true := by
  fun_cases WorkThreadExecutor.step s act <;>
    grind [WorkThreadExecutor.run, WorkThreadExecutor.shutdown]

/-- A task that the worker takes without another look at the flag counts as called. -/
def takes (s : WorkThreadExecutor T) : List T := s.started ++ s.tasks.take s.thread.inHand

theorem takes_of_ne {t : WorkThreadExecutor T} (ht : t.thread ≠ .taking)
    (hs : t.started = s.started) : t.takes <+: s.takes := by
  have none_left : t.thread.inHand = 0 := by
    cases hp : t.thread <;> simp_all [WorkPoint.inHand]
  rw [takes, none_left, List.take_zero, List.append_nil, hs]
  exact List.prefix_append _ _

theorem woken_ne_taking (hp : p ≠ .taking) : p.woken ≠ .taking := by
  cases p <;> simp_all [WorkPoint.woken]

theorem takes_woken : takes { s with thread := s.thread.woken } = s.takes := by
  cases ht : s.thread <;> simp [takes, ht, WorkPoint.woken, WorkPoint.inHand]

theorem takes_run (hd : s.isShutDown = true) : s.run.takes <+: s.takes := by
  unfold WorkThreadExecutor.run
  cases ht : s.thread with
  | taking => cases hq : s.tasks <;> simp [takes, ht, hq, WorkPoint.inHand]
  | absent | asleep | exited => exact List.prefix_rfl
  -- none of these comes to `taking` once the flag is set
  | top | entry | held | running => exact takes_of_ne (by grind) (by grind)

theorem takes_step (h : s.Sound) (hd : s.isShutDown = true) (act : ExecutorAct T) :
    (s.step act).takes <+: s.takes := by
  cases act with
  | enter | shutdown => simp [WorkThreadExecutor.step, hd]
  | leave =>
    dsimp only [WorkThreadExecutor.step]
    split
    · exact List.prefix_rfl
    next hi =>
      have ht := (h.mutex (by simp [hi])).2
      exact takes_of_ne (by grind) rfl
    next hi => exact takes_of_ne (woken_ne_taking (h.mutex (by simp [hi])).2) rfl
  | goOn =>
    dsimp only [WorkThreadExecutor.step]
    unfold WorkThreadExecutor.shutdown
    split
    · split
      next hf => exact takes_of_ne (lockFree_iff.mp hf).2.2 rfl
      · exact List.prefix_rfl
    · exact takes_woken (s := s) ▸ List.prefix_rfl
    · split <;> exact List.prefix_rfl
    · exact List.prefix_rfl
    · exact List.prefix_rfl
  | work => exact takes_run hd
  | wakeUp => exact takes_woken (s := s) ▸ List.prefix_rfl

/-- Once the flag is set, no task is called but the one that the worker was about to take. -/
theorem one_task_after_flag (before after : List (ExecutorAct T))
    (flagged : (before.foldl step initial).isShutDown = true) :
    (after.foldl step (before.foldl step initial)).started <+:
      (before.foldl step initial).started ++
        (before.foldl step initial).tasks.take (before.foldl step initial).thread.inHand := by
  have sound := throughout_last (sound_reached before)
  generalize before.foldl step initial = s at flagged sound ⊢
  have kept := invariant_foldl
    (fun (t : WorkThreadExecutor T) act (h : t.Sound ∧ t.isShutDown = true ∧ t.takes <+: s.takes) =>
      ⟨h.1.step act, isShutDown_step h.2.1 act, (takes_step h.1 h.2.1 act).trans h.2.2⟩)
    ⟨sound, flagged, List.prefix_rfl⟩ after
  exact (List.prefix_append _ _).trans kept.2.2

theorem one_task_after_flag_taking : (([.work, .work, .work] : List (ExecutorAct Nat)).foldl step
    (([.enter .init, .leave, .enter (.submit 7), .leave, .enter (.submit 8), .leave, .work, .work,
      .work, .shutdown false] : List (ExecutorAct Nat)).foldl step initial)).started <+: [7] :=
  one_task_after_flag _ _ rfl

theorem Sound.step_returned (h : s.Sound) (hr : s.stop = .returned) (hb : s.byWorker = false)
    (act : ExecutorAct T) :
    s.step act = s := by
  have hd := h.isShutDown (by simp [hr])
  have ht := h.joined hr hb
  cases act with
  | enter call | shutdown byWorker => simp [WorkThreadExecutor.step, hd]
  | leave => simp [WorkThreadExecutor.step, (h.cleared (by simp [isCleared, hr])).2.2.1]
  | goOn => simp [WorkThreadExecutor.step, WorkThreadExecutor.shutdown, hr]
  | work => rcases ht with ht | ht <;> simp [WorkThreadExecutor.step, WorkThreadExecutor.run, ht]
  | wakeUp =>
    simp [WorkThreadExecutor.step,
      woken_of_ne (p := s.thread) (by rcases ht with ht | ht <;> simp [ht])]

/-- When the `shutdown` that set the flag has returned to a thread that is not the worker, no call
changes anything any more. -/
theorem unchanged_after_shutdown (before after : List (ExecutorAct T))
    (hr : (before.foldl step initial).stop = .returned)
    (hb : (before.foldl step initial).byWorker = false) :
    after.foldl step (before.foldl step initial) = before.foldl step initial := by
  have hs := throughout_last (sound_reached before)
  refine invariant_foldl (fun t act (ht : t = before.foldl step initial) => ?_) rfl after
  exact ht ▸ hs.step_returned hr hb act

theorem unchanged_after_shutdown_running :
    ([.enter (.submit 8), .leave, .work, .enter .init, .leave] : List (ExecutorAct Nat)).foldl step
      (([.enter .init, .leave, .enter (.submit 7), .leave, .shutdown false, .work, .goOn, .goOn,
        .goOn] :
        List (ExecutorAct Nat)).foldl step initial) =
      ⟨true, [], false, .exited, none, .returned, false, true, [7], []⟩ :=
  unchanged_after_shutdown _ _ rfl rfl

/-- `join` waits for no worker that waits itself: two steps of the worker end it, the rest of a task
being one. -/
theorem join_ends (acts : List (ExecutorAct T)) (hn : (acts.foldl step initial).stop = .notified)
    (hb : (acts.foldl step initial).byWorker = false) :
    ((((acts.foldl step initial).step .work).step .work).step .goOn).stop = .returned := by
  have hs := throughout_last (sound_reached acts)
  generalize acts.foldl step initial = s at hn hb hs
  obtain ⟨_, _, hi, hk, hp⟩ := hs.cleared (by simp [isCleared, hn])
  have hd := hs.isShutDown (by simp [hn])
  have ha := hs.asleep
  cases ht : s.thread <;>
    simp_all [WorkThreadExecutor.step, WorkThreadExecutor.run, WorkThreadExecutor.shutdown,
      lockFree, WorkPoint.isExited]

theorem join_ends_asleep :
    ((((([.enter .init, .leave, .work, .work, .shutdown false, .goOn, .goOn] :
      List (ExecutorAct Nat)).foldl step initial).step .work).step .work).step .goOn).stop =
        .returned :=
  join_ends _ rfl rfl

end WorkThreadExecutor

end DebugRouter.Native
