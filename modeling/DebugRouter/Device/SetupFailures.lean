import Mathlib.Order.Basic

/-!
What becomes of the promises when a device is set up and a call to adb or hdc fails: `forwards` of an
Android or a Harmony device, and `ensureClientWatcher`, which nobody waits for and which calls
`forwards` of an Android device once more.
-/
namespace DebugRouter.Device

open List

inductive Outcome where
  | resolved | rejected | pending
  deriving DecidableEq

/-- How a promise ends, and how many others were rejected on the way without a handler. -/
structure Promised where
  outcome : Outcome
  unhandled : Nat := 0
  deriving DecidableEq

/-- `new Promise(async (resolve, reject) => { body; resolve(); })`: nobody handles what the body
throws. -/
def asyncExecutor (body : Outcome) : Promised :=
  match body with
  | .resolved => { outcome := .resolved }
  | .rejected => { outcome := .pending, unhandled := 1 }
  | .pending => { outcome := .pending }

def Promised.dropped (p : Promised) : Nat := p.unhandled + if p.outcome = .rejected then 1 else 0

/-- Which calls of one `forwards` succeed; a port is tried five times at most. `forward` is `none`
when the call fails. -/
structure SetupCalls where
  getDevice : Bool
  listForwards : Bool
  removeForwards : List Bool
  detectPort : Nat → Nat → Bool
  forward : Nat → Nat → Option Bool

inductive DeviceKind where
  | android | harmony
  deriving DecidableEq

namespace SetupCalls
variable (c : SetupCalls) (kind : DeviceKind)

/-- Which of the promises resolve that `adbForwardRemove` or `removeForward` waits for. `exeCmd`
resolves with the text of an error, and the calls of `TargetClient` catch what fails. -/
def removalAwaits : List Bool :=
  match kind with
  | .android => c.listForwards :: c.removeForwards.map fun _ => true
  | .harmony => true :: (if c.listForwards then c.removeForwards else []).map fun _ => true

def removal : Promised :=
  asyncExecutor (if (c.removalAwaits kind).all id then .resolved else .rejected)

def tryPort (i : Nat) : Nat → Outcome
  | 0 => .resolved
  | left + 1 =>
    if c.detectPort i (4 - left) then
      if c.forward i (4 - left) = some true then .resolved else tryPort i left
    else .rejected

def forwardPorts : List Nat → Outcome
  | [] => .resolved
  | i :: later => if c.tryPort i 5 = .rejected then .rejected else forwardPorts later

/-- A removal that fails is caught, but not one that never ends. -/
def forwards (count : Nat) : Promised :=
  if c.getDevice then
    if (c.removal kind).outcome = .pending then c.removal kind
    else { outcome := c.forwardPorts (range count), unhandled := (c.removal kind).unhandled }
  else { outcome := .resolved }

/-- `starts` says whether the startup may start; only for an Android device it calls `forwards`. -/
def ensureClientWatcher (starts : Bool) (count : Nat) : Promised :=
  if starts && kind = .android then c.forwards kind count else { outcome := .resolved }

/-- `forwards` settles when the device is created, and nothing is rejected without a handler, the
dropped promise of the watcher included. Only a device that was created is watched, and adb may
answer differently then. -/
def Contained (created watched : SetupCalls) (kind : DeviceKind) (starts : Bool) (count : Nat) :
    Prop :=
  (created.forwards kind count).outcome ≠ .pending ∧
    (created.forwards kind count).unhandled = 0 ∧
    ((created.forwards kind count).outcome = .resolved →
      (watched.ensureClientWatcher kind starts count).dropped = 0)

/-- A free port is found for each try of each port that comes after refused ones. -/
def Detects (count : Nat) : Prop := ∀ i < count, ∀ k < 5,
  (∀ k' < k, c.forward i k' ≠ some true) → c.detectPort i k = true

variable {c kind} {i : Nat}

theorem removal_eq : c.removal kind =
    if kind = .android ∧ c.listForwards = false then { outcome := .pending, unhandled := 1 }
    else { outcome := .resolved } := by
  cases kind <;> cases lists : c.listForwards <;>
    simp [removal, removalAwaits, lists, asyncExecutor]

theorem tryPort_iff (left : Nat) (bound : left ≤ 5) : c.tryPort i left ≠ .rejected ↔
    ∀ k < 5, 5 - left ≤ k → (∀ k' < k, 5 - left ≤ k' → c.forward i k' ≠ some true) →
      c.detectPort i k = true := by
  induction left with
  | zero => exact iff_of_true nofun fun k _ _ => by omega
  | succ left ih =>
    have start : 5 - (left + 1) = 4 - left := by omega
    rw [tryPort, start]
    split
    next found =>
      split
      next forwarded =>
        refine iff_of_true nofun fun k _ least refused => ?_
        rcases Nat.eq_or_lt_of_le least with rfl | later
        · exact found
        · exact absurd forwarded (refused _ later (Nat.le_refl _))
      next refusal =>
        rw [ih (by omega)]
        constructor
        · intro all k below least refused
          rcases Nat.eq_or_lt_of_le least with rfl | later
          · exact found
          · exact all k below (by omega) fun k' earlier _ => refused k' earlier (by omega)
        · intro all k below least refused
          refine all k below (by omega) fun k' earlier from' => ?_
          rcases Nat.eq_or_lt_of_le from' with rfl | later
          · exact refusal
          · exact refused k' earlier (by omega)
    next missing =>
      refine iff_of_false (by simp) fun all => missing (all _ (by omega) (Nat.le_refl _) ?_)
      intro k' earlier least
      omega

theorem forwardPorts_cases (l : List Nat) :
    c.forwardPorts l = .resolved ∧ (∀ i ∈ l, c.tryPort i 5 ≠ .rejected) ∨
      c.forwardPorts l = .rejected ∧ ∃ i ∈ l, c.tryPort i 5 = .rejected := by
  induction l with
  | nil => exact .inl ⟨rfl, nofun⟩
  | cons i later ih =>
    unfold forwardPorts
    split
    next failed => exact .inr ⟨rfl, i, mem_cons_self, failed⟩
    next going =>
      rcases ih with ⟨outcome, all⟩ | ⟨outcome, j, member, failed⟩
      · exact .inl ⟨outcome, forall_mem_cons.mpr ⟨going, all⟩⟩
      · exact .inr ⟨outcome, j, mem_cons_of_mem i member, failed⟩

theorem forwardPorts_eq (count : Nat) [Decidable (c.Detects count)] :
    c.forwardPorts (range count) = if c.Detects count then .resolved else .rejected := by
  have detects : ∀ i, c.tryPort i 5 ≠ .rejected ↔ ∀ k < 5,
      (∀ k' < k, c.forward i k' ≠ some true) → c.detectPort i k = true := fun i => by
    simpa using tryPort_iff (c := c) (i := i) 5 (Nat.le_refl 5)
  rcases c.forwardPorts_cases (range count) with ⟨outcome, all⟩ | ⟨outcome, i, member, failed⟩
  · have found : c.Detects count := fun i below => (detects i).mp (all i (mem_range.mpr below))
    rw [outcome, if_pos found]
  · have missing : ¬ c.Detects count := fun all =>
      (detects i).mpr (all i (mem_range.mp member)) failed
    rw [outcome, if_neg missing]

end SetupCalls

end DebugRouter.Device
