import DebugRouter.Daemon.Registry
import DebugRouter.Library.Coercion
import DebugRouter.Library.Runs

/-!
`LegacyOwnershipGuard` with the waits of its lock. A call of `start`, `monitor` or `reacquire` tries
to make the lock directory, does its work in a later turn, and then removes the directory; other
calls and other processes come in between. The calls that `onStatusChanged` makes come after the
work as well.
-/
namespace DebugRouter.Daemon

open Library List

inductive LegacyOwnershipReason where
  | daemonStarted
  | legacyPreempted
  | reacquireRequested
  | staleOwner
  | invalidOwner
  deriving DecidableEq

structure LegacyOwnershipChange where
  status : LegacyOwnershipStatus
  ownerPid : Nat
  previousOwnerPid : Option Nat
  reason : LegacyOwnershipReason
  deriving DecidableEq

/-- What is shared with other processes. `lockDir` says whether the lock directory holds something. -/
structure OwnershipFiles where
  ownerFile : Option String
  lockDir : Option Bool
  alive : Nat → Bool

inductive GuardMethod where
  | start
  | monitor
  | reacquire
  deriving DecidableEq

inductive GuardStage where
  | trying (attempt : Nat)
  | acquired
  | releasing
  | returning
  deriving DecidableEq

structure GuardCall where
  id : Nat
  method : GuardMethod
  stage : GuardStage
  deriving DecidableEq

structure LegacyOwnershipGuard where
  currentStatus : LegacyOwnershipStatus
  stopped : Bool
  monitorTimer : Option Nat
  intervals : List Nat
  nextTimer : Nat
  calls : List GuardCall
  nextCall : Nat
  files : OwnershipFiles

structure GuardIo where
  mkdirFails : Bool
  rmdirFails : Bool
  mkdirAgainFails : Bool
  readFails : Bool
  writeFails : Bool
  rmFails : Bool
  deriving DecidableEq

inductive GuardAct where
  /-- `closeMultiOpen` is the environment's `DriverCloseMultiOpen` at the call. -/
  | start (closeMultiOpen : Bool) (io : GuardIo)
  | reacquire (closeMultiOpen : Bool) (io : GuardIo)
  | stop
  | interval (timer : Nat) (io : GuardIo)
  /-- The call goes on: its retry timer fires, or its `await` resumes. -/
  | proceed (id : Nat) (io : GuardIo)
  | outside (files : OwnershipFiles)

inductive GuardEvent where
  | wroteOwnerPid (call : GuardCall)
  | statusSet (call : GuardCall) (status : LegacyOwnershipStatus)
  | statusChanged (call : GuardCall) (change : LegacyOwnershipChange)
  deriving DecidableEq

def LEGACY_LOCK_ACQUIRE_MAX_ATTEMPTS : Nat := 5

/-- `readOwnerPid` on a file that can be read. -/
def ownerPid (ownerFile : Option String) : Option Nat :=
  match ownerFile with
  | none => none
  | some rawValue =>
    let text := trimText rawValue.toList
    if text = [] then none
    else
      match (stringToNumber text).bind JsNumber.toInt? with
      | some pid => if 0 < pid then some pid.toNat else none
      | none => none

namespace LegacyOwnershipGuard
variable (pid : Nat) (g : LegacyOwnershipGuard)

def initial (files : OwnershipFiles) : LegacyOwnershipGuard :=
  ⟨.unInit, true, none, [], 0, [], 0, files⟩

def setStage (id : Nat) (stage : GuardStage) : LegacyOwnershipGuard :=
  { g with
    calls := g.calls.map fun call => if call.id = id then { call with stage := stage } else call }

/-- `withLegacyLock` returns: `start` goes on, the others end. -/
def leave (call : GuardCall) : LegacyOwnershipGuard :=
  match call.method with
  | .start => g.setStage call.id .returning
  | .monitor | .reacquire => { g with calls := g.calls.filter (·.id ≠ call.id) }

/-- `acquireLegacyLock` from an attempt to its next wait. -/
def acquireLegacyLock (call : GuardCall) (attempt : Nat) (io : GuardIo) : LegacyOwnershipGuard :=
  if io.mkdirFails then g.leave call
  else
    match g.files.lockDir with
    | none => { g with files.lockDir := some false }.setStage call.id .acquired
    | some full =>
      if attempt + 1 < LEGACY_LOCK_ACQUIRE_MAX_ATTEMPTS then
        g.setStage call.id (.trying (attempt + 1))
      -- a lock directory that stays is removed, unless it holds something
      else if full ∨ io.rmdirFails then g.leave call
      else if io.mkdirAgainFails then { g with files.lockDir := none }.leave call
      else { g with files.lockDir := some false }.setStage call.id .acquired

def readOwnerPid (io : GuardIo) : Option Nat :=
  if io.readFails then none else ownerPid g.files.ownerFile

def emitStatusChanged (call : GuardCall) (status : LegacyOwnershipStatus)
    (reason : LegacyOwnershipReason)
    (previousOwnerPid : Option Nat) : LegacyOwnershipGuard × List GuardEvent :=
  ({ g with currentStatus := status },
    [.statusSet call status, .statusChanged call ⟨status, pid, previousOwnerPid, reason⟩])

def writeOwnerPid (call : GuardCall) (io : GuardIo) (reason : LegacyOwnershipReason)
    (previousOwnerPid : Option Nat) :
    LegacyOwnershipGuard × List GuardEvent :=
  if io.writeFails then (g, [])
  else
    let written := { g with files.ownerFile := some (toString pid) }
    let told := written.emitStatusChanged pid call .attached reason previousOwnerPid
    (told.1, .wroteOwnerPid call :: told.2)

def checkOwner (call : GuardCall) (io : GuardIo) : LegacyOwnershipGuard × List GuardEvent :=
  match g.readOwnerPid io with
  | none => g.writeOwnerPid pid call io .invalidOwner none
  | some previousOwnerPid =>
    if previousOwnerPid = pid then
      if g.currentStatus ≠ .attached then
        g.emitStatusChanged pid call .attached .reacquireRequested none
      else (g, [])
    else if g.files.alive previousOwnerPid = false then
      g.writeOwnerPid pid call io .staleOwner (some previousOwnerPid)
    else if g.currentStatus = .attached then
      g.emitStatusChanged pid call .unattached .legacyPreempted (some previousOwnerPid)
    else (g, [])

def work (call : GuardCall) (io : GuardIo) : LegacyOwnershipGuard × List GuardEvent :=
  match call.method with
  | .monitor => g.checkOwner pid call io
  | .start => g.writeOwnerPid pid call io .daemonStarted (g.readOwnerPid io)
  | .reacquire => g.writeOwnerPid pid call io .reacquireRequested (g.readOwnerPid io)

/-- `withLegacyLock` is called and makes its first attempt. -/
def withLegacyLock (method : GuardMethod) (io : GuardIo) : LegacyOwnershipGuard :=
  let call : GuardCall := ⟨g.nextCall, method, .trying 0⟩
  { g with calls := g.calls ++ [call], nextCall := g.nextCall + 1 }.acquireLegacyLock call 0 io

def start (closeMultiOpen : Bool) (io : GuardIo) : LegacyOwnershipGuard × List GuardEvent :=
  if closeMultiOpen then
    ({ g with currentStatus := .attached }, [.statusSet ⟨g.nextCall, .start, .returning⟩ .attached])
  else if g.monitorTimer.isSome then (g, [])
  else ({ g with stopped := false }.withLegacyLock .start io, [])

def stop : LegacyOwnershipGuard :=
  match g.monitorTimer with
  | none => { g with stopped := true }
  | some timer =>
    { g with stopped := true, monitorTimer := none, intervals := g.intervals.filter (· ≠ timer) }

def startMonitor : LegacyOwnershipGuard :=
  if g.stopped then g
  else
    { g with
      monitorTimer := some g.nextTimer, intervals := g.intervals ++ [g.nextTimer],
      nextTimer := g.nextTimer + 1 }

def proceed (call : GuardCall) (io : GuardIo) : LegacyOwnershipGuard × List GuardEvent :=
  match call.stage with
  | .trying attempt => (g.acquireLegacyLock call attempt io, [])
  | .acquired => (g.setStage call.id .releasing).work pid call io
  | .releasing =>
    (({ g with files.lockDir := if io.rmFails then g.files.lockDir else none }).leave call, [])
  | .returning => ({ g.startMonitor with calls := g.calls.filter (·.id ≠ call.id) }, [])

def perform : GuardAct → LegacyOwnershipGuard × List GuardEvent
  | .start closeMultiOpen io => g.start closeMultiOpen io
  | .reacquire closeMultiOpen io => (if closeMultiOpen then g else g.withLegacyLock .reacquire io, [])
  | .stop => (g.stop, [])
  | .interval timer io =>
    (if timer ∈ g.intervals ∧ g.stopped = false then g.withLegacyLock .monitor io else g, [])
  | .proceed id io => (g.calls.find? (·.id = id)).elim (g, []) (g.proceed pid · io)
  | .outside files => ({ g with files := files }, [])

def step (act : GuardAct) : LegacyOwnershipGuard := (g.perform pid act).1

def events (act : GuardAct) : List GuardEvent := (g.perform pid act).2

variable {pid g}

/- What a call in flight changes -/

def callIds (g : LegacyOwnershipGuard) : List Nat := g.calls.map GuardCall.id

variable (id : Nat) (c : GuardCall)

theorem callIds_setStage (stage : GuardStage) : (g.setStage id stage).callIds = g.callIds := by
  unfold callIds setStage
  rw [map_map]
  refine map_congr_left fun c _ => ?_
  dsimp only [Function.comp]
  split <;> rfl

/-- No call is added, and neither the flag that `stop` sets nor what others see changes. -/
structure Ends (g g' : LegacyOwnershipGuard) : Prop where
  calls : ∀ id ∈ g'.callIds, id ∈ g.callIds
  stopped : g'.stopped = g.stopped
  status : g'.currentStatus = g.currentStatus
  file : g'.files.ownerFile = g.files.ownerFile

theorem ends_setStage (stage : GuardStage) : g.Ends (g.setStage id stage) :=
  ⟨fun _ hi => callIds_setStage (g := g) id stage ▸ hi, rfl, rfl, rfl⟩

theorem ends_drop : g.Ends { g with calls := g.calls.filter (·.id ≠ id) } :=
  ⟨fun _ hi => map_subset _ filter_sublist.subset hi, rfl, rfl, rfl⟩

theorem ends_leave : g.Ends (g.leave c) := by
  unfold leave
  split
  · exact ends_setStage c.id .returning
  · exact ends_drop c.id
  · exact ends_drop c.id

theorem ends_lockDir {lockDir : Option Bool} {g' : LegacyOwnershipGuard}
    (h : ({ g with files.lockDir := lockDir }).Ends g') : g.Ends g' :=
  ⟨h.calls, h.stopped, h.status, h.file⟩

theorem ends_acquireLock (attempt : Nat) (io : GuardIo) :
    g.Ends (g.acquireLegacyLock c attempt io) := by
  unfold acquireLegacyLock
  split
  · exact ends_leave c
  · split
    · exact ends_lockDir (ends_setStage c.id .acquired)
    · split
      · exact ends_setStage c.id _
      · split
        · exact ends_leave c
        · split
          · exact ends_lockDir (ends_leave c)
          · exact ends_lockDir (ends_setStage c.id .acquired)

/- What the guard may do in one act -/

/-- The owner file and the status change only with an event, `unattached` is told only from
`attached`, and a monitor that can read the owner file does not write over a live foreign owner. -/
structure Told (pid : Nat) (g : LegacyOwnershipGuard) (readable : Prop)
    (out : LegacyOwnershipGuard × List GuardEvent) :
    Prop where
  file : out.1.files.ownerFile = g.files.ownerFile ∨ ∃ call, .wroteOwnerPid call ∈ out.2
  status : out.1.currentStatus = g.currentStatus ∨ ∃ call, .statusSet call out.1.currentStatus ∈ out.2
  unattached : ∀ call change, .statusChanged call change ∈ out.2 → change.status = .unattached →
    g.currentStatus = .attached
  foreign : readable → ∀ call, .wroteOwnerPid call ∈ out.2 → call.method = .monitor →
    ∀ owner, ownerPid g.files.ownerFile = some owner → owner ≠ pid → g.files.alive owner = false

theorem told_silent {readable : Prop} {g' : LegacyOwnershipGuard}
    (hf : g'.files.ownerFile = g.files.ownerFile)
    (hs : g'.currentStatus = g.currentStatus) : Told pid g readable (g', []) :=
  ⟨.inl hf, .inl hs, nofun, nofun⟩

theorem told_emitStatus {readable : Prop} {g' : LegacyOwnershipGuard}
    (file : g'.files.ownerFile = g.files.ownerFile) (c : GuardCall) (st : LegacyOwnershipStatus)
    (reason : LegacyOwnershipReason) (previousOwnerPid : Option Nat)
    (from' : st = .unattached → g.currentStatus = .attached) :
    Told pid g readable (g'.emitStatusChanged pid c st reason previousOwnerPid) where
  file := .inl file
  status := .inr ⟨c, mem_cons_self⟩
  unattached := by
    intro call' change hi hl
    simp only [emitStatusChanged, mem_cons, reduceCtorEq, GuardEvent.statusChanged.injEq,
      not_mem_nil, or_false, false_or] at hi
    obtain ⟨-, rfl⟩ := hi
    exact from' hl
  foreign := by
    intro _ call' hi
    simp [emitStatusChanged] at hi

theorem told_writePid {readable : Prop} {g' : LegacyOwnershipGuard}
    (hf : g'.files.ownerFile = g.files.ownerFile)
    (hs : g'.currentStatus = g.currentStatus) (c : GuardCall) (io : GuardIo)
    (reason : LegacyOwnershipReason) (previousOwnerPid : Option Nat)
    (hv : readable → c.method = .monitor →
      ∀ own, ownerPid g.files.ownerFile = some own → own ≠ pid → g.files.alive own = false) :
    Told pid g readable (g'.writeOwnerPid pid c io reason previousOwnerPid) := by
  unfold writeOwnerPid
  split
  · exact told_silent hf hs
  · refine ⟨.inr ⟨c, mem_cons_self⟩, .inr ⟨c, mem_cons_of_mem _ mem_cons_self⟩, ?_, ?_⟩
    · intro call' change hi hl
      simp only [emitStatusChanged, mem_cons, reduceCtorEq, GuardEvent.statusChanged.injEq,
        not_mem_nil, or_false, false_or] at hi
      obtain ⟨-, rfl⟩ := hi
      cases hl
    · intro hr call' hi monitor
      simp only [emitStatusChanged, mem_cons, reduceCtorEq, GuardEvent.wroteOwnerPid.injEq,
        not_mem_nil, or_false] at hi
      subst hi
      exact hv hr monitor

theorem told_checkOwner {g' : LegacyOwnershipGuard} (hfi : g'.files = g.files)
    (hs : g'.currentStatus = g.currentStatus) (c : GuardCall) (io : GuardIo) :
    Told pid g (io.readFails = false) (g'.checkOwner pid c io) := by
  have hf : g'.files.ownerFile = g.files.ownerFile := by rw [hfi]
  have read : io.readFails = false → g'.readOwnerPid io = ownerPid g.files.ownerFile := by
    intro hr
    rw [readOwnerPid, hr, hf]
    rfl
  unfold checkOwner
  split
  next hm =>
    refine told_writePid hf hs c io _ _ fun hr _ own hn => ?_
    rw [← read hr, hm] at hn
    cases hn
  next previousOwnerPid hfo =>
    split
    · split
      · exact told_emitStatus hf c .attached _ _ nofun
      · exact told_silent hf hs
    · split
      next hd =>
        refine told_writePid hf hs c io _ _ fun hr _ own hn _ => ?_
        rw [← read hr, hfo] at hn
        cases hn
        rwa [hfi] at hd
      · split
        next ha => exact told_emitStatus hf c .unattached _ _ fun _ => hs ▸ ha
        · exact told_silent hf hs

theorem told_work {g' : LegacyOwnershipGuard} (hfi : g'.files = g.files)
    (hs : g'.currentStatus = g.currentStatus)
    (c : GuardCall) (io : GuardIo) : Told pid g (io.readFails = false) (g'.work pid c io) := by
  have file : g'.files.ownerFile = g.files.ownerFile := by rw [hfi]
  unfold work
  split
  · exact told_checkOwner hfi hs c io
  next hm => exact told_writePid file hs c io _ _ fun _ hmo => nomatch hm.symm.trans hmo
  next hm => exact told_writePid file hs c io _ _ fun _ hmo => nomatch hm.symm.trans hmo

theorem Ends.told {readable : Prop} {g' : LegacyOwnershipGuard} (h : g.Ends g') :
    Told pid g readable (g', []) :=
  told_silent h.file h.status

theorem told_withLock {readable : Prop} {g' : LegacyOwnershipGuard}
    (hf : g'.files.ownerFile = g.files.ownerFile)
    (hs : g'.currentStatus = g.currentStatus) (method : GuardMethod) (io : GuardIo) :
    Told pid g readable (g'.withLegacyLock method io, []) := by
  have he := ends_acquireLock (g := { g' with
    calls := g'.calls ++ [⟨g'.nextCall, method, .trying 0⟩], nextCall := g'.nextCall + 1 })
    ⟨g'.nextCall, method, .trying 0⟩ 0 io
  exact told_silent (he.file.trans hf) (he.status.trans hs)

theorem told_proceed (io : GuardIo) : Told pid g (io.readFails = false) (g.proceed pid c io) := by
  unfold proceed
  split
  · exact (ends_acquireLock c _ io).told
  · refine told_work ?_ ?_ c io <;> rfl
  · exact (ends_lockDir (ends_leave c)).told
  · unfold startMonitor
    split
    · exact told_silent rfl rfl
    · exact told_silent rfl rfl

/-- The read of the owner file in an act does not throw. -/
def Readable : GuardAct → Prop
  | .proceed _ io => io.readFails = false
  | _ => True

theorem told_perform (act : GuardAct) (h : ∀ files, act ≠ .outside files) :
    Told pid g (Readable act) (g.perform pid act) := by
  cases act with
  | start closeMultiOpen io =>
    simp only [perform, start]
    split
    · exact ⟨.inl rfl, .inr ⟨_, mem_cons_self⟩, by simp, by simp⟩
    · split
      · exact told_silent rfl rfl
      · refine told_withLock ?_ ?_ .start io <;> rfl
  | reacquire closeMultiOpen io =>
    simp only [perform]
    split
    · exact told_silent rfl rfl
    · exact told_withLock rfl rfl .reacquire io
  | stop =>
    simp only [perform, stop]
    split <;> exact told_silent rfl rfl
  | interval timer io =>
    simp only [perform]
    split
    · exact told_withLock rfl rfl .monitor io
    · exact told_silent rfl rfl
  | proceed id io =>
    simp only [perform]
    cases g.calls.find? (·.id = id) with
    | none => exact told_silent rfl rfl
    | some c => exact told_proceed c io
  | outside files => exact absurd rfl (h files)

/- After `stop` -/

theorem calls_writePid (io : GuardIo) (reason : LegacyOwnershipReason)
    (previousOwnerPid : Option Nat) :
    (g.writeOwnerPid pid c io reason previousOwnerPid).1.calls = g.calls ∧
      (g.writeOwnerPid pid c io reason previousOwnerPid).1.stopped = g.stopped := by
  unfold writeOwnerPid
  split <;> exact ⟨rfl, rfl⟩

theorem calls_work (pid : Nat) (g : LegacyOwnershipGuard) (c : GuardCall) (io : GuardIo) :
    (g.work pid c io).1.calls = g.calls ∧ (g.work pid c io).1.stopped = g.stopped := by
  unfold work
  split
  · unfold checkOwner
    split
    · exact calls_writePid c io _ _
    · split
      · split <;> exact ⟨rfl, rfl⟩
      · split
        · exact calls_writePid c io _ _
        · split <;> exact ⟨rfl, rfl⟩
  · exact calls_writePid c io _ _
  · exact calls_writePid c io _ _

/-- The guard is stopped, and only calls that were in flight are left. -/
structure Winding (inFlight : List Nat) (g : LegacyOwnershipGuard) : Prop where
  stopped : g.stopped = true
  calls : ∀ id ∈ g.callIds, id ∈ inFlight

variable {inFlight : List Nat} {act : GuardAct}

theorem Winding.ends {g' : LegacyOwnershipGuard} (hw : g.Winding inFlight) (he : g.Ends g') :
    g'.Winding inFlight :=
  ⟨he.stopped.trans hw.stopped, fun id hi => hw.calls id (he.calls id hi)⟩

theorem Winding.proceed (h : g.Winding inFlight) (c : GuardCall) (io : GuardIo) :
    (g.proceed pid c io).1.Winding inFlight := by
  unfold LegacyOwnershipGuard.proceed
  split
  · exact h.ends (ends_acquireLock c _ io)
  · obtain ⟨hc, hs⟩ := calls_work pid (g.setStage c.id .releasing) c io
    obtain ⟨hs', hc'⟩ := h.ends (ends_setStage c.id .releasing)
    exact ⟨hs.trans hs', fun id hi => hc' id (by rwa [callIds, hc] at hi)⟩
  · exact h.ends (ends_lockDir (ends_leave c))
  · rw [startMonitor, if_pos h.stopped]
    exact h.ends (ends_drop c.id)

def BeginsCall : GuardAct → Prop
  | .start _ _ | .reacquire _ _ => True
  | _ => False

theorem Winding.step (hw : g.Winding inFlight) (none' : ¬BeginsCall act) :
    (g.step pid act).Winding inFlight := by
  cases act with
  | start closeMultiOpen io | reacquire closeMultiOpen io => exact absurd trivial none'
  | stop =>
    simp only [LegacyOwnershipGuard.step, perform, LegacyOwnershipGuard.stop]
    split <;> exact ⟨rfl, hw.calls⟩
  | interval timer io =>
    simp only [LegacyOwnershipGuard.step, perform, hw.stopped, Bool.true_eq_false, and_false,
      if_false]
    exact hw
  | proceed id io =>
    simp only [LegacyOwnershipGuard.step, perform]
    cases g.calls.find? (·.id = id) with
    | none => exact hw
    | some c => exact hw.proceed c io
  | outside files => exact ⟨hw.stopped, hw.calls⟩

/-- The guard writes no owner file, keeps its status and tells the Host nothing. -/
structure Inert (pid : Nat) (g : LegacyOwnershipGuard) (act : GuardAct) : Prop where
  silent : g.events pid act = []
  status : (g.step pid act).currentStatus = g.currentStatus
  file : (∀ files, act ≠ .outside files) → (g.step pid act).files.ownerFile = g.files.ownerFile

theorem Winding.inert (hw : g.Winding inFlight) (none' : ¬BeginsCall act) :
    g.Inert pid act ∨ ∃ id io, act = .proceed id io ∧ id ∈ inFlight := by
  cases act with
  | start closeMultiOpen io | reacquire closeMultiOpen io => exact absurd trivial none'
  | stop =>
    refine .inl ⟨rfl, ?_, fun _ => ?_⟩
    all_goals simp only [LegacyOwnershipGuard.step, perform, LegacyOwnershipGuard.stop]
    all_goals split <;> rfl
  | interval timer io =>
    refine .inl ⟨rfl, ?_, fun _ => ?_⟩
    all_goals simp only [LegacyOwnershipGuard.step, perform, hw.stopped, Bool.true_eq_false,
      and_false, if_false]
  | proceed id io =>
    cases hf : g.calls.find? (·.id = id) with
    | none =>
      refine .inl ⟨?_, ?_, fun _ => ?_⟩
      all_goals simp only [events, LegacyOwnershipGuard.step, perform, hf, Option.elim_none]
    | some c =>
      have inside : c.id ∈ g.callIds := mem_map_of_mem (mem_of_find?_eq_some hf)
      have same : c.id = id := by simpa using find?_some hf
      exact .inr ⟨id, io, rfl, hw.calls id (same ▸ inside)⟩
  | outside files => exact .inl ⟨rfl, rfl, fun ho => absurd rfl (ho files)⟩

/- Whole runs -/

theorem stopped_guard_winds_down (pid : Nat) (files : OwnershipFiles) (front back : List GuardAct)
    (uncalled : ∀ act ∈ back, ¬BeginsCall act) :
    let halted := (front.foldl (step pid) (initial files)).stop
    Along (step pid) (fun g act => g.Inert pid act ∨
      ∃ id io, act = .proceed id io ∧ id ∈ halted.callIds) halted back ∧
      Along (step pid) (fun g act => (∀ outside, act ≠ .outside outside) →
        Told pid g (Readable act) (g.step pid act, g.events pid act)) (initial files)
          (front ++ .stop :: back) := by
  intro halted
  refine ⟨?_, ?_⟩
  · have hw : halted.Winding halted.callIds := by
      refine ⟨?_, fun _ hi => hi⟩
      simp only [halted, stop]
      split <;> rfl
    exact along_of_allowed (fun _ _ hw' none' => ⟨hw'.step none', hw'.inert none'⟩) hw uncalled
  · exact @along_of_invariant _ _ (step pid) _ (fun _ => True) _ (fun _ _ _ => trivial)
      (fun _ act _ hi => told_perform act hi) trivial _

def fine : GuardIo := ⟨false, false, false, false, false, false⟩

def started : List GuardAct := [.start false fine, .proceed 0 fine, .proceed 0 fine, .proceed 0 fine]

theorem idle_guard_stops :
    let halted := (started.foldl (step 7) (initial ⟨none, none, fun _ => false⟩)).stop
    (Along (step 7) (fun g act => g.Inert 7 act ∨
      ∃ id io, act = .proceed id io ∧ id ∈ halted.callIds) halted
        [.interval 0 fine, .outside ⟨some "9", none, fun _ => true⟩, .interval 0 fine] ∧
      Along (step 7) (fun g act => (∀ outside, act ≠ .outside outside) →
        Told 7 g (Readable act) (g.step 7 act, g.events 7 act)) (initial ⟨none, none, fun _ => false⟩)
        (started ++ .stop ::
          [.interval 0 fine, .outside ⟨some "9", none, fun _ => true⟩, .interval 0 fine])) ∧
      halted.callIds = [] ∧ halted.currentStatus = .attached ∧ halted.files.ownerFile = some "7" :=
  ⟨stopped_guard_winds_down 7 _ started _ (by simp [BeginsCall]), by decide +kernel⟩

/-- After `stop` a new `reacquire` writes the owner file, and so does a tick that was waiting for
the lock; a tick whose read fails writes over the live owner 9. -/
theorem stopped_guard_writes :
    let running := started.foldl (step 7) (initial ⟨none, none, fun _ => false⟩)
    let reclaiming := [GuardAct.stop, .reacquire false fine].foldl (step 7) running
    let waiting := [GuardAct.outside ⟨some "9", some false, fun _ => false⟩, .interval 0 fine, .stop,
      .outside ⟨some "9", none, fun _ => false⟩, .proceed 1 fine].foldl (step 7) running
    let preempted :=
      [GuardAct.outside ⟨some "9", none, fun p => decide (p = 9)⟩,
        .interval 0 fine].foldl (step 7) running
    (reclaiming.stopped = true ∧ reclaiming.events 7 (.proceed 1 fine) ≠ []) ∧
      (waiting.stopped = true ∧ waiting.events 7 (.proceed 1 fine) ≠ []) ∧
      (ownerPid preempted.files.ownerFile = some 9 ∧ preempted.files.alive 9 = true ∧
        .wroteOwnerPid ⟨1, .monitor, .acquired⟩ ∈ preempted.events 7
          (.proceed 1 { fine with readFails := true })) := by
  decide +kernel

end LegacyOwnershipGuard

end DebugRouter.Daemon
