import DebugRouter.Manager.SpawnLock
import Mathlib.Logic.Function.Basic

/-!
`FileLock` between its file-system calls. Processes share one lock path; a process runs a method up
to its next call, and another may run in between. Each has one `FileLock`; two of them may have the
same pid, as two locks of one process do, or a process that was given the pid of one that has died.
-/
namespace DebugRouter.Manager

open Library

/-- The lock directory and its `owner.json`. Only the inode tells a directory from one made later in
its place. -/
structure LockDirectory where
  inode : Nat
  owner : Option FileLockOwner
  mtime : Nat
  deriving DecidableEq

/-- Who called `tryRemove`. For a directory without an owner, `seen` is the one that was found too
old. -/
inductive Removing where
  | release (owner : FileLockOwner)
  | cleanup (staleOwner : Option FileLockOwner) (seen : Option Nat)
  deriving DecidableEq

def Removing.expected : Removing → Option FileLockOwner
  | .release owner => some owner
  | .cleanup staleOwner _ => staleOwner

inductive LockPoint where
  | idle
  | checkExists
  | checkRead
  | mkdir (owner : FileLockOwner)
  /-- `made` is the directory of the `mkdir` before. -/
  | write (owner : FileLockOwner) (made : Nat)
  | tryExists (why : Removing)
  | tryOwnerExists (why : Removing)
  | tryRead (why : Removing)
  /-- `checked` is the directory that was compared, or that was found too old. -/
  | tryRemove (why : Removing) (checked : Option Nat)
  | againExists
  | againRead
  | cleanOwnerExists (now : Nat)
  | cleanRead (now : Nat)
  | cleanExists (now : Nat) (owner : Option FileLockOwner)
  | cleanAlive (now : Nat) (owner : FileLockOwner)
  | cleanStat (now : Nat)
  deriving DecidableEq

structure FileLock where
  locked : Bool
  owner : Option FileLockOwner
  point : LockPoint
  deriving DecidableEq

structure LockPath where
  clock : Nat
  disk : Option LockDirectory
  nextInode : Nat
  nextToken : Nat
  live : List Nat
  locks : Nat → FileLock

inductive CallAct where
  | acquire (n : Nat)
  | release (n : Nat)
  | cleanupStale (n : Nat)
  /-- The next call of the process; `succeeds` is a removal that does not throw. -/
  | proceed (n : Nat) (succeeds : Bool)
  | tick (elapsed : Nat)
  | crash (n : Nat)
  deriving DecidableEq

namespace LockPath
variable (pid : Nat → Nat) (timeout : Nat) (w : LockPath) (n : Nat)

def initial (now : Nat) (live : List Nat) : LockPath :=
  ⟨now, none, 0, 0, live, fun _ => ⟨false, none, .idle⟩⟩

def readOwner : Option FileLockOwner := w.disk.bind LockDirectory.owner

def isProcessAlive (p : Nat) : Bool := w.live.any fun n => decide (pid n = p)

def put (lock : FileLock) : LockPath := { w with locks := Function.update w.locks n lock }

def goto (point : LockPoint) : LockPath := w.put n { w.locks n with point := point }

def clearLocalState : LockPath := w.put n ⟨false, none, .idle⟩

def create : LockPath :=
  { w with nextToken := w.nextToken + 1 }.put n ⟨false, none, .mkdir ⟨pid n, w.clock, w.nextToken⟩⟩

def returns (why : Removing) (result : Bool) : LockPath :=
  match why, result with
  | .release _, true => w.clearLocalState n
  | .release _, false => w.goto n .againExists
  | .cleanup _ _, _ => w.goto n .idle

def compare (why : Removing) (found : Option FileLockOwner) : LockPath :=
  if found = why.expected then
    w.goto n (.tryRemove why (match why with
      | .cleanup none seen => seen
      | _ => w.disk.map LockDirectory.inode))
  else w.returns n why false

def proceed (succeeds : Bool) : LockPath :=
  let lock := w.locks n
  match lock.point with
  | .idle => w
  | .checkExists => if w.readOwner.isSome then w.goto n .checkRead else w.create pid n
  | .checkRead => if w.readOwner = lock.owner then w.goto n .idle else w.create pid n
  | .mkdir owner =>
    match w.disk with
    | some _ => w.goto n .idle
    | none =>
      { w with disk := some ⟨w.nextInode, none, w.clock⟩, nextInode := w.nextInode + 1 }.goto n
        (.write owner w.nextInode)
  | .write owner _ =>
    match w.disk with
    | none => w.goto n .idle
    | some dir =>
      -- a new file changes the time of the directory, an overwritten one does not
      let mtime := if dir.owner.isSome then dir.mtime else w.clock
      { w with disk := some ⟨dir.inode, some owner, mtime⟩ }.put n ⟨true, some owner, .idle⟩
  | .tryExists why => if w.disk.isSome then w.goto n (.tryOwnerExists why) else w.returns n why true
  | .tryOwnerExists why =>
    if w.readOwner.isSome then w.goto n (.tryRead why) else w.compare n why none
  | .tryRead why => w.compare n why w.readOwner
  | .tryRemove why _ =>
    if succeeds then { w with disk := none }.returns n why true else w.returns n why false
  | .againExists => if w.readOwner.isSome then w.goto n .againRead else w.clearLocalState n
  | .againRead => if w.readOwner = lock.owner then w.goto n .idle else w.clearLocalState n
  | .cleanOwnerExists now =>
    if w.readOwner.isSome then w.goto n (.cleanRead now) else w.goto n (.cleanExists now none)
  | .cleanRead now => w.goto n (.cleanExists now w.readOwner)
  | .cleanExists now owner =>
    if w.disk.isSome then w.goto n (owner.elim (.cleanStat now) (.cleanAlive now)) else w.goto n .idle
  | .cleanAlive now owner =>
    if w.isProcessAlive pid owner.pid = false ∨ timeout + owner.createdAt < now then
      w.goto n (.tryExists (.cleanup (some owner) none))
    else w.goto n .idle
  | .cleanStat now =>
    match w.disk with
    | none => w.goto n .idle
    | some dir =>
      if timeout + dir.mtime < now then w.goto n (.tryExists (.cleanup none (some dir.inode)))
      else w.goto n .idle

def begin (start : LockPath) : LockPath := if n ∈ w.live ∧ (w.locks n).point = .idle then start else w

def acquire : LockPath :=
  if (w.locks n).locked ∧ (w.locks n).owner.isSome then w.goto n .checkExists else w.create pid n

def release : LockPath :=
  if (w.locks n).locked then
    match (w.locks n).owner with
    | none => w.clearLocalState n
    | some owner => w.goto n (.tryExists (.release owner))
  else w

def step (w : LockPath) : CallAct → LockPath
  | .acquire n => w.begin n (w.acquire pid n)
  | .release n => w.begin n (w.release n)
  | .cleanupStale n => w.begin n (w.goto n (.cleanOwnerExists w.clock))
  | .proceed n succeeds => if n ∈ w.live then w.proceed pid timeout n succeeds else w
  | .tick elapsed => { w with clock := w.clock + elapsed }
  | .crash n => { w with live := w.live.filter (· ≠ n) }

/- What is claimed of it -/

def Stale (owner : FileLockOwner) : Prop :=
  w.isProcessAlive pid owner.pid = false ∨ timeout + owner.createdAt < w.clock

def Exclusive : Prop :=
  ∀ n ∈ w.live, ∀ m ∈ w.live, (w.locks n).locked = true → (w.locks m).locked = true → n = m

def Timely : Prop :=
  ∀ n ∈ w.live, (w.locks n).locked = true →
    ∀ owner ∈ (w.locks n).owner, w.clock ≤ timeout + owner.createdAt

instance : Decidable (w.Timely timeout) :=
  inferInstanceAs (Decidable (∀ n ∈ w.live, _ → ∀ owner ∈ _, _ ≤ _))

instance : Decidable w.Exclusive :=
  inferInstanceAs (Decidable (∀ n ∈ w.live, ∀ m ∈ w.live, _ → _ → n = m))

instance (owner : FileLockOwner) : Decidable (w.Stale pid timeout owner) :=
  inferInstanceAs (Decidable (_ ∨ _))

/-- The directory that was checked, when the next call is its removal. -/
def checkedFor : LockPoint → Option (Option Nat)
  | .tryRemove _ checked => some checked
  | _ => none

/-- A directory that is removed has its remover's own owner, a stale one, or none. -/
def OwnRemoval : CallAct → Prop
  | .proceed n true => n ∈ w.live → (checkedFor (w.locks n).point).isSome → ∀ owner ∈ w.readOwner,
      (w.locks n).owner = some owner ∨ w.Stale pid timeout owner
  | _ => True

/-- A removal finds nothing, or the directory that was checked. -/
def Unreplaced : CallAct → Prop
  | .proceed n true =>
    n ∈ w.live → ∀ checked ∈ checkedFor (w.locks n).point, ∀ dir ∈ w.disk, checked = some dir.inode
  | _ => True

instance : (act : CallAct) → Decidable (w.OwnRemoval pid timeout act)
  | .proceed _ true => inferInstanceAs (Decidable (_ → _ → ∀ owner ∈ _, _ ∨ _))
  | .acquire _ | .release _ | .cleanupStale _ | .proceed _ false | .tick _ | .crash _ =>
    .isTrue trivial

instance : (act : CallAct) → Decidable (w.Unreplaced act)
  | .proceed _ true => inferInstanceAs (Decidable (_ → ∀ checked ∈ _, ∀ dir ∈ _, _ = _))
  | .acquire _ | .release _ | .cleanupStale _ | .proceed _ false | .tick _ | .crash _ =>
    .isTrue trivial

end LockPath

end DebugRouter.Manager
