import DebugRouter.Library.Runs
import DebugRouter.Library.OrderedMap
import DebugRouter.Manager.Waits

/-!
Managers competing for `spawn.lock`. Each `FileLock` method is one step, the clock is
shared, and a locked section lasts as long as its outcomes make it last. A manager may be
asked for a second section while one is open (`ensureDaemon` and `stopDaemonForDebugging`
do not exclude each other), and its process may die anywhere.
-/
namespace DebugRouter.Manager

open Library Option

structure FileLockOwner where
  pid : Nat
  createdAt : Nat
  token : Nat
  deriving DecidableEq

/-- From a successful `acquireSpawnLock` to its `releaseSpawnLock`. -/
structure LockedSection where
  owner : FileLockOwner
  startedAt : Nat
  endsAt : Option Nat
  deriving DecidableEq

/-- `held` is the owner the manager's `FileLock` object remembers. -/
structure Process where
  alive : Bool
  held : Option FileLockOwner
  sections : List LockedSection
  deriving DecidableEq

structure World where
  clock : Nat
  lock : Option FileLockOwner
  nextToken : Nat
  processes : OrderedMap Nat Process

inductive LockAct where
  | start (pid : Nat)
  | attempt (pid : Nat) (outcome : SectionOutcome)
  | advance (duration : Nat)
  | finish (pid : Nat)
  | crash (pid : Nat)

namespace World
variable (w : World)

def initial (now : Nat) : World := ⟨now, none, 0, .empty⟩

def isProcessAlive (pid : Nat) : Bool := ((w.processes.get? pid).map Process.alive).getD false

def isLockStateStale (timeout : Nat) : Bool :=
  match w.lock with
  | none => false
  | some owner => !w.isProcessAlive owner.pid || decide (timeout < w.clock - owner.createdAt)

def cleanupStale (timeout : Nat) : World :=
  if w.isLockStateStale timeout then { w with lock := none } else w

/-- The owner under which the lock was acquired, if it was. -/
def acquire (pid : Nat) (p : Process) : World × Process × Option FileLockOwner :=
  if p.held.isSome ∧ w.lock = p.held then (w, p, p.held)
  else
    match w.lock with
    | some _ => (w, { p with held := none }, none)
    | none =>
      let owner : FileLockOwner := ⟨pid, w.clock, w.nextToken⟩
      ({ w with lock := some owner, nextToken := w.nextToken + 1 }, { p with held := some owner },
        some owner)

def release (p : Process) : World × Process :=
  if p.held.isSome ∧ w.lock = p.held then ({ w with lock := none }, { p with held := none })
  else (w, { p with held := none })

/-- Time stops at the end of every running section until it has released the lock. -/
def mayAdvance (duration : Nat) : Bool :=
  w.processes.values.all fun p =>
    !p.alive || p.sections.all fun sec => sec.endsAt.all fun e => decide (w.clock + duration ≤ e)

def openSection (settings : Nat → Settings) (pid : Nat) (p : Process) (outcome : SectionOutcome) :
    World :=
  let cleaned := w.cleanupStale (settings pid).spawnLockStaleTimeout
  match cleaned.acquire pid p with
  | (w, p, none) => { w with processes := w.processes.set pid p }
  | (w, p, some owner) =>
    let opened : LockedSection :=
      ⟨owner, w.clock, (holdTime (settings pid) outcome).map (w.clock + ·)⟩
    { w with processes := w.processes.set pid { p with sections := p.sections ++ [opened] } }

def closeSection (pid : Nat) (p : Process) (sec : LockedSection) : World :=
  let (w, p) := w.release p
  { w with processes := w.processes.set pid { p with sections := p.sections.erase sec } }

/-- Acts of processes that do not run are ignored. -/
def step (settings : Nat → Settings) (w : World) : LockAct → World
  | .start pid =>
    if w.processes.has pid then w
    else { w with processes := w.processes.set pid ⟨true, none, []⟩ }
  | .attempt pid outcome =>
    match w.processes.get? pid with
    | some p => if p.alive then w.openSection settings pid p outcome else w
    | none => w
  | .advance duration => if w.mayAdvance duration then { w with clock := w.clock + duration } else w
  | .finish pid =>
    match w.processes.get? pid with
    | some p =>
      match p.sections.find? fun sec => sec.endsAt = some w.clock with
      | some sec => if p.alive then w.closeSection pid p sec else w
      | none => w
    | none => w
  | .crash pid =>
    match w.processes.get? pid with
    | some p => { w with processes := w.processes.set pid { p with alive := false } }
    | none => w

def Executes (pid : Nat) (sec : LockedSection) : Prop :=
  ∃ p, w.processes.get? pid = some p ∧ p.alive = true ∧ sec ∈ p.sections

/-- No live holder outlives the stale timeout, none can be robbed of the lock, and only one
manager is in the section. -/
structure LockHeld (settings : Nat → Settings) (w : World) : Prop where
  within : ∀ {pid sec}, w.Executes pid sec →
    w.clock - sec.startedAt ≤ (settings pid).spawnLockStaleTimeout
  kept : ∀ {pid sec}, w.Executes pid sec → w.lock = some sec.owner ∧
    ∀ other, w.isLockStateStale (settings other).spawnLockStaleTimeout = false
  alone : ∀ {pid sec pid' sec'}, w.Executes pid sec → w.Executes pid' sec' → pid = pid'

/-- A section is asked for when none is open in that manager, and its cost fits the stale
timeout of every manager. -/
def Fits (settings : Nat → Settings) (w : World) : LockAct → Prop
  | .attempt pid outcome =>
    (∀ p, w.processes.get? pid = some p → p.sections = []) ∧
    0 < (settings pid).readyPollInterval ∧
    ∀ other, sectionCost (settings pid) outcome ≤ (settings other).spawnLockStaleTimeout
  | _ => True

/- The invariant: every process is idle or runs one section, under the lock if it lives. -/

structure Running (settings : Nat → Settings) (w : World) (pid : Nat) (p : Process)
    (sec : LockedSection) : Prop where
  only : p.sections = [sec]
  held : p.held = some sec.owner
  pid_eq : sec.owner.pid = pid
  created : sec.owner.createdAt = sec.startedAt
  ends : ∃ e, sec.endsAt = some e ∧ (p.alive = true → w.clock ≤ e) ∧
    ∀ other, e ≤ sec.startedAt + (settings other).spawnLockStaleTimeout
  locked : p.alive = true → w.lock = some sec.owner

def Sound (settings : Nat → Settings) (w : World) : Prop :=
  ∀ pid p, w.processes.get? pid = some p →
    (p.sections = [] ∧ p.held = none) ∨ ∃ sec, Running settings w pid p sec

section Sound
variable {settings : Nat → Settings} {w w' : World} {pid : Nat} {p : Process}
  {sec : LockedSection}

theorem Sound.running (hs : w.Sound settings) (he : w.Executes pid sec) :
    ∃ p, w.processes.get? pid = some p ∧ p.alive = true ∧ Running settings w pid p sec := by
  obtain ⟨p, hf, alive, hm⟩ := he
  refine ⟨p, hf, alive, ?_⟩
  rcases hs pid p hf with ⟨hi, -⟩ | ⟨only, running⟩
  · rw [hi] at hm
    cases hm
  · rw [running.only, List.mem_singleton] at hm
    exact hm ▸ running

theorem Running.not_stale (hr : Running settings w pid p sec)
    (hfo : w.processes.get? pid = some p) (ha : p.alive = true) (o : Nat) :
    w.isLockStateStale (settings o).spawnLockStaleTimeout = false := by
  obtain ⟨e, -, hb, fits⟩ := hr.ends
  have hb := hb ha
  have fits := fits o
  simp only [isLockStateStale, hr.locked ha, isProcessAlive, hr.pid_eq, hfo,
    map_some, getD_some, ha, hr.created, Bool.not_true, Bool.false_or,
    decide_eq_false_iff_not]
  omega

theorem Sound.lockHeld (h : w.Sound settings) : w.LockHeld settings where
  within {pid _} executes := by
    obtain ⟨p, -, ha, hr⟩ := h.running executes
    obtain ⟨e, -, hb, fits⟩ := hr.ends
    have hb := hb ha
    have fits := fits pid
    omega
  kept executes := by
    obtain ⟨p, hfo, ha, hr⟩ := h.running executes
    exact ⟨hr.locked ha, hr.not_stale hfo ha⟩
  alone executes executes' := by
    obtain ⟨p, -, ha, hr⟩ := h.running executes
    obtain ⟨p', -, ha', hr'⟩ := h.running executes'
    have same := (hr.locked ha).symm.trans (hr'.locked ha')
    rw [← hr.pid_eq, ← hr'.pid_eq, some.inj same]

theorem Sound.set (hs : w.Sound settings) (hc : w'.clock = w.clock)
    (hp : w'.processes = w.processes.set pid p)
    (hm : (p.sections = [] ∧ p.held = none) ∨ ∃ sec, Running settings w' pid p sec)
    (ho : ∀ o sec, o ≠ pid → w.Executes o sec → w'.lock = w.lock) :
    w'.Sound settings := by
  intro o q hf
  rw [hp, OrderedMap.get?_set] at hf
  split at hf
  next hh =>
    cases hf
    exact hh ▸ hm
  next hap =>
    refine (hs o q hf).imp_right ?_
    rintro ⟨sec, running⟩
    refine ⟨sec, { running with ends := hc ▸ running.ends, locked := fun ha => ?_ }⟩
    have he : w.Executes o sec := ⟨q, hf, ha, by simp [running.only]⟩
    rw [ho o sec hap he]
    exact running.locked ha

theorem Sound.cleanupStale (h : w.Sound settings) (o : Nat) :
    (w.cleanupStale (settings o).spawnLockStaleTimeout).Sound settings := by
  unfold World.cleanupStale
  split
  next hs =>
    intro pid p hf
    refine (h pid p hf).imp_right ?_
    rintro ⟨sec, running⟩
    refine ⟨sec, { running with ends := running.ends, locked := fun ha => ?_ }⟩
    rw [running.not_stale hf ha o] at hs
    cases hs
  · exact h

theorem Sound.openSection (hs : w.Sound settings) {out : SectionOutcome}
    (hfo : w.processes.get? pid = some p) (hi : p.sections = [])
    (hp : 0 < (settings pid).readyPollInterval)
    (hfi : ∀ o, sectionCost (settings pid) out ≤ (settings o).spawnLockStaleTimeout) :
    (w.openSection settings pid p out).Sound settings := by
  have hc := hs.cleanupStale pid
  have free : p.held = none := by
    rcases hs pid p hfo with ⟨-, hh⟩ | ⟨sec, hr⟩
    · exact hh
    · rw [hr.only] at hi
      cases hi
  obtain ⟨el, hh, hco⟩ := holdTime_cost hp out
  unfold World.openSection World.acquire
  simp only [free, isSome_none, Bool.false_eq_true, false_and, if_false]
  cases hl : (w.cleanupStale (settings pid).spawnLockStaleTimeout).lock with
  | some own => exact hc.set rfl rfl (.inl ⟨hi, rfl⟩) fun _ _ _ _ => hl.symm ▸ rfl
  | none =>
    rw [hh, hi]
    refine hc.set rfl rfl (.inr ⟨_, rfl, rfl, rfl, rfl, ⟨_, rfl, ?_, ?_⟩, fun _ => rfl⟩) ?_
    · exact fun _ => Nat.le_add_right ..
    · exact fun o => Nat.add_le_add_left (hco.trans (hfi o)) _
    · -- nobody lives in the section while the lock is free
      intro o sec _ he
      obtain ⟨q, -, ha, hr⟩ := hc.running he
      rw [hr.locked ha] at hl
      cases hl

theorem Sound.closeSection (hs : w.Sound settings) (hf : w.processes.get? pid = some p)
    (hal : p.alive = true) (hm : sec ∈ p.sections) :
    (w.closeSection pid p sec).Sound settings := by
  obtain ⟨q, found', -, hr⟩ := hs.running ⟨p, hf, hal, hm⟩
  cases hf.symm.trans found'
  have hl := hr.locked hal
  unfold World.closeSection World.release
  simp only [hr.held, hl, isSome_some, and_self, if_true]
  refine hs.set rfl rfl (.inl ⟨by simp [hr.only], rfl⟩) ?_
  intro o sec' ha he
  exact absurd (hs.lockHeld.alone he ⟨p, hf, hal, hm⟩) ha

theorem Sound.advance (hs : w.Sound settings) {dur : Nat}
    (hal : w.mayAdvance dur = true) :
    Sound settings { w with clock := w.clock + dur } := by
  intro pid p hf
  refine (hs pid p hf).imp_right ?_
  rintro ⟨sec, running⟩
  obtain ⟨e, ends, -, hfi⟩ := running.ends
  refine ⟨sec, { running with ends := ⟨e, ends, fun ha => ?_, hfi⟩, locked := running.locked }⟩
  have hh : p ∈ w.processes.values := OrderedMap.mem_values_iff.mpr ⟨pid, hf⟩
  have all := List.all_eq_true.mp hal p hh
  simpa [ha, running.only, ends] using all

theorem Sound.step (hs : w.Sound settings) (act : LockAct) (hfi : Fits settings w act) :
    (step settings w act).Sound settings := by
  cases act with
  | start pid =>
    simp only [World.step]
    split
    · exact hs
    · exact hs.set rfl rfl (.inl ⟨rfl, rfl⟩) fun _ _ _ _ => rfl
  | attempt pid out =>
    simp only [World.step]
    split
    next p hf =>
      split
      · exact hs.openSection hf (hfi.1 p hf) hfi.2.1 hfi.2.2
      · exact hs
    · exact hs
  | advance dur =>
    simp only [World.step]
    split
    next hal => exact hs.advance hal
    · exact hs
  | finish pid =>
    simp only [World.step]
    split
    next p hf =>
      split
      next sec due =>
        split
        next ha => exact hs.closeSection hf ha (List.mem_of_find?_eq_some due)
        · exact hs
      · exact hs
    · exact hs
  | crash pid =>
    simp only [World.step]
    split
    next p hf =>
      refine hs.set rfl rfl ((hs pid p hf).imp_right ?_) fun _ _ _ _ => rfl
      rintro ⟨sec, running⟩
      obtain ⟨e, ends, -, hfi⟩ := running.ends
      exact ⟨sec, { running with ends := ⟨e, ends, by simp, hfi⟩, locked := by simp }⟩
    · exact hs

end Sound

theorem lockHeld_of_fits (settings : Nat → Settings) (now : Nat) (acts : List LockAct)
    (fits : Along (step settings) (Fits settings) (initial now) acts) :
    Throughout (step settings) (LockHeld settings) (initial now) acts := by
  have start : (initial now).Sound settings := nofun
  have kept : ∀ w act, Sound settings w → Fits settings w act →
      Sound settings (step settings w act) :=
    fun w act hs => hs.step act
  exact throughout_mono (fun w hs => hs.lockHeld) (throughout_of_along kept start fits)

def freshStart : SectionOutcome := ⟨none, .force 0 [], some ⟨some 0, true⟩⟩

theorem lockHeld_of_two_managers :
    Throughout (step fun _ => defaultSettings) (LockHeld fun _ => defaultSettings) (initial 1)
      [.start 1, .start 2, .attempt 1 freshStart, .attempt 2 freshStart, .advance 500, .finish 1,
        .attempt 2 freshStart] := by
  have polls : 0 < defaultSettings.readyPollInterval := by decide
  have cost : sectionCost defaultSettings freshStart ≤ defaultSettings.spawnLockStaleTimeout := by
    decide
  have fits (w : World) (pid : Nat) (hi : ∀ p, w.processes.get? pid = some p → p.sections = []) :
      Fits (fun _ => defaultSettings) w (.attempt pid freshStart) :=
    ⟨hi, polls, fun _ => cost⟩
  refine lockHeld_of_fits _ 1 _
    ⟨trivial, trivial, fits _ 1 ?_, fits _ 2 ?_, trivial, trivial, fits _ 2 ?_, trivial⟩
  all_goals rintro p ⟨⟩; rfl

/-- The daemon ignores `SIGTERM`, goes at the end of the wait after `SIGKILL`, and its
successor is ready at the last probe. -/
def slowReplacement : SectionOutcome :=
  ⟨none, .force 0 [⟨.sent, none, true, .sent, some 20, false⟩], some ⟨some 9, true⟩⟩

/-- With the default settings that section takes 7500 ms and the lock goes stale after 7000:
a second manager takes it from the live first one and both are in the section. -/
theorem stolen_from_live_holder : ¬ LockHeld (fun _ => defaultSettings)
      ([.start 1, .start 2, .attempt 1 slowReplacement, .advance 7001,
        .attempt 2 slowReplacement].foldl (step fun _ => defaultSettings) (initial 1)) := by
  intro hh
  generalize run : List.foldl _ _ _ = w at hh
  have first : w.processes.get? 1 = some ⟨true, some ⟨1, 1, 0⟩, [⟨⟨1, 1, 0⟩, 1, some 7501⟩]⟩ := by
    subst run
    decide +kernel
  have second : w.processes.get? 2 =
      some ⟨true, some ⟨2, 7002, 1⟩, [⟨⟨2, 7002, 1⟩, 7002, some 14502⟩]⟩ := by
    subst run
    decide +kernel
  have same : 1 = 2 := hh.alone ⟨_, first, rfl, by simp; rfl⟩ ⟨_, second, rfl, by simp; rfl⟩
  cases same

end World

end DebugRouter.Manager
