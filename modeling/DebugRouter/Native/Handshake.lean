import DebugRouter.Library.Alternation
import DebugRouter.Library.Runs
import DebugRouter.Native.Switchboard

/-!
The dirty/scheduled handshake of `UpdateServerState`. `server_state_update_scheduled_` is a token:
whoever set it posts the task, the task owns it while it runs, and it is given back just before the
last look at the dirty flag. A switch that changes is either already read by the task or still
announced to it.
-/
namespace DebugRouter.Native

open Library List

namespace CallPoint

/-- The call has changed its switch and not yet set the dirty flag. -/
def unannounced : CallPoint → Bool
  | loadAllSessions | readTransceiver | storeDisconnected | storeDirty => true
  | _ => false

end CallPoint

namespace TaskPoint

def released : TaskPoint → Bool
  | reloadDirty | exchangeScheduled => true
  | _ => false

end TaskPoint

namespace Switchboard
variable {T : Type} {b : Switchboard T}

/- The token -/

def tokens (b : Switchboard T) : Nat :=
  b.calls.count .post + b.queue.countP Posted.isUpdate + match b.task with
    | none => 0
    | some point => if point.released then 0 else 1

def Exclusive (b : Switchboard T) : Prop := b.tokens = b.serverStateUpdateScheduled.toNat

theorem exclusive_advance (h : b.Exclusive) (i : Nat) (usbCurrent : Bool) :
    (b.advance i usbCurrent).Exclusive := by
  unfold advance
  split
  · exact h
  next pt hh =>
    obtain ⟨before, after, split, hm⟩ := moveThread_split hh
    simp only [Exclusive, tokens, split, count_append, count_cons] at h
    simp only [Exclusive, tokens, hm, count_append]
    cases pt with
    | exchangeSwitch switch =>
      cases switch <;> simp only [perform] <;> split <;> simpa using h
    | exchangeScheduled =>
      simp only [perform]
      split
      · simpa using h
      next hu =>
        rw [Bool.not_eq_true] at hu
        rw [hu] at h
        simp only [Option.toList_some, count_singleton, Bool.toNat_true, Bool.toNat_false,
          beq_self_eq_true, if_true] at h ⊢
        omega
    | post =>
      simp [perform] at h ⊢
      omega
    | loadAllSessions | readTransceiver =>
      simp only [perform]
      split <;> simpa using h
    | storeDisconnected | storeDirty => simpa [perform] using h

theorem exclusive_work (h : b.Exclusive) : b.work.Exclusive := by
  unfold work
  split
  · exact h
  next pt hh =>
    simp only [Exclusive, tokens, hh] at h ⊢
    cases pt with
    | clearScheduled =>
      have bound := Bool.toNat_le b.serverStateUpdateScheduled
      simp only [performTask, TaskPoint.released, Bool.toNat_false, Bool.false_eq_true, if_true,
        if_false] at h ⊢
      omega
    | reloadDirty =>
      cases hd : b.serverStateUpdateDirty <;>
        simpa [performTask, hd, TaskPoint.released] using h
    | exchangeScheduled =>
      simp only [performTask]
      split
      · simpa [TaskPoint.released] using h
      next hu =>
        rw [Bool.not_eq_true] at hu
        rw [hu] at h
        simp only [TaskPoint.released, Bool.toNat_false, Bool.toNat_true, Bool.false_eq_true, if_true,
          if_false] at h ⊢
        omega
    | loadAllSessions | exchangeRunning shouldRun | loadDirty =>
      simp only [performTask]
      split <;> simpa [TaskPoint.released] using h
    | clearDirty | loadDebugChannel | closeUsb shouldRun | applyServers shouldRun =>
      simpa [performTask, TaskPoint.released] using h

theorem exclusive_take (h : b.Exclusive) : b.take.Exclusive := by
  unfold take
  split
  next hr hw =>
    simp only [Exclusive, tokens, hr, hw, countP_cons, Posted.isUpdate_update] at h
    simp [Exclusive, tokens, TaskPoint.released] at h ⊢
    omega
  next task xs hr hw => simpa [Exclusive, tokens, hr, hw] using h
  · exact h

theorem exclusive_step (h : b.Exclusive) (a : BoardAct T) : (b.step a).Exclusive := by
  cases a with
  | call switch => simpa [Exclusive, tokens, step] using h
  | advance i usbCurrent => exact exclusive_advance h i usbCurrent
  | post task => simpa [Exclusive, tokens, step, post] using h
  | take => exact exclusive_take h
  | work => exact exclusive_work h

/- No change is lost -/

/-- What the task has read so far is still true, or the server already is as it should be. -/
def FreshAt (b : Switchboard T) : Option TaskPoint → Prop
  | some .clearDirty | some .loadAllSessions => True
  | some .loadDebugChannel => b.enableAllSessions = false
  | some (.exchangeRunning shouldRun) => shouldRun = b.shouldServerRun
  | _ => b.serverRunning = b.shouldServerRun

def Fresh (b : Switchboard T) : Prop := b.FreshAt b.task

/-- The dirty flag is set and somebody is bound to look at it. -/
def Announced (b : Switchboard T) : Prop :=
  b.serverStateUpdateDirty = true ∧
    (.exchangeScheduled ∈ b.calls ∨ b.serverStateUpdateScheduled = true ∨
      ∃ point ∈ b.task, point.released = true)

def Unannounced (b : Switchboard T) : Prop := ∃ point ∈ b.calls, point.unannounced = true

def Followed (b : Switchboard T) : Prop := b.Fresh ∨ b.Unannounced ∨ b.Announced

variable {b' : Switchboard T}

theorem Followed.mono (hf : b.Followed) (hfr : b.Fresh → b'.Fresh)
    (hu : b.Unannounced → b'.Unannounced) (ha : b.Announced → b'.Announced) :
    b'.Followed := by
  rcases hf with hr | pending | known
  · exact .inl (hfr hr)
  · exact .inr (.inl (hu pending))
  · exact .inr (.inr (ha known))

theorem followed_advance (h : b.Followed) (i : Nat) (usbCurrent : Bool) :
    (b.advance i usbCurrent).Followed := by
  unfold advance
  split
  · exact h
  next point here =>
    obtain ⟨before, after, split, moved⟩ := moveThread_split here
    have kept : ∀ next other, other ∈ b.calls → other ≠ point →
        other ∈ moveThread b.calls i next := by
      intro next other called apart
      rw [split] at called
      rw [moved]
      simp only [mem_append, mem_cons] at called ⊢
      tauto
    have gone : ∀ next, next ∈ moveThread b.calls i (some next) := fun next => by simp [moved]
    have passed : ∀ {b' : Switchboard T} (next), b'.calls = moveThread b.calls i next →
        point.unannounced = false → b.Unannounced → b'.Unannounced := by
      rintro b' next calls silent ⟨other, called, pending⟩
      refine ⟨other, calls ▸ kept next other called ?_, pending⟩
      rintro rfl
      simp [silent] at pending
    have turned : ∀ {b' : Switchboard T} (next), b'.calls = moveThread b.calls i (some next) →
        next.unannounced = true → b'.Followed := by
      intro b' next calls pending
      exact .inr (.inl ⟨next, calls ▸ gone next, pending⟩)
    cases point with
    | exchangeSwitch switch =>
      have same : Switchboard.Followed { b with calls := moveThread b.calls i none } := by
        refine h.mono id (passed none rfl rfl) ?_
        rintro ⟨dirty, looked⟩
        refine ⟨dirty, looked.imp_left fun called => kept none _ called (by simp)⟩
      cases switch <;> simp only [perform] <;> split <;>
        first
          | exact same
          | exact turned _ rfl rfl
    | loadAllSessions | readTransceiver =>
      simp only [perform]
      split <;> exact turned _ rfl rfl
    | storeDisconnected => exact turned _ rfl rfl
    | storeDirty => exact .inr (.inr ⟨rfl, .inl (gone _)⟩)
    | exchangeScheduled =>
      simp only [perform]
      split
      next scheduled =>
        exact h.mono id (passed none rfl rfl) fun known => ⟨known.1, .inr (.inl scheduled)⟩
      · exact h.mono id (passed (some .post) rfl rfl) fun known => ⟨known.1, .inr (.inl rfl)⟩
    | post =>
      refine h.mono id (passed none rfl rfl) ?_
      rintro ⟨dirty, looked⟩
      exact ⟨dirty, looked.imp_left fun called => kept none _ called (by simp)⟩

theorem followed_work (h : b.Followed) : b.work.Followed := by
  unfold work
  split
  · exact h
  next pt hh =>
    -- While the task owns the token, it is not the task that is bound to look at the flag.
    have hs : ∀ {b' : Switchboard T}, pt.released = false →
        b'.serverStateUpdateDirty = b.serverStateUpdateDirty → b'.calls = b.calls →
        b'.serverStateUpdateScheduled = b.serverStateUpdateScheduled → b.Announced →
          b'.Announced := by
      rintro b' ho hhsa hhs sameScheduled ⟨hd, hl⟩
      refine ⟨hhsa.trans hd, ?_⟩
      rw [hhs, sameScheduled]
      rcases hl with hc | scheduled | ⟨o, hr, hre⟩
      · exact .inl hc
      · exact .inr (.inl scheduled)
      · rw [hh, Option.mem_some_iff] at hr
        simp [← hr, ho] at hre
    cases pt with
    | clearDirty => exact .inl trivial
    | loadAllSessions =>
      left
      cases all : b.enableAllSessions <;> simp [Fresh, FreshAt, performTask, shouldServerRun, all]
    | loadDebugChannel =>
      refine h.mono (fun hf => ?_) id (hs rfl rfl rfl rfl)
      simp only [Fresh, FreshAt, hh] at hf
      simp [Fresh, FreshAt, performTask, shouldServerRun, hf]
    | exchangeRunning shouldRun =>
      refine h.mono (fun hf => ?_) id (hs rfl rfl rfl rfl)
      simp only [Fresh, FreshAt, hh] at hf
      by_cases hsa : b.serverRunning = shouldRun <;>
        simpa [Fresh, FreshAt, performTask, hsa, shouldServerRun] using hf
    | closeUsb shouldRun | applyServers shouldRun =>
      refine h.mono (fun hf => ?_) id (hs rfl rfl rfl rfl)
      simpa [Fresh, FreshAt, hh, performTask, shouldServerRun] using hf
    | loadDirty =>
      cases hd : b.serverStateUpdateDirty with
      | true => exact .inl (by simp [Fresh, FreshAt, performTask, hd])
      | false =>
        refine h.mono (fun hf => ?_) id (hs rfl rfl rfl rfl)
        simpa [Fresh, FreshAt, hh, performTask, hd, shouldServerRun] using hf
    | clearScheduled =>
      refine h.mono (fun hf => ?_) id fun hk => ⟨hk.1, .inr (.inr ⟨_, rfl, rfl⟩)⟩
      simpa [Fresh, FreshAt, hh, performTask, shouldServerRun] using hf
    | reloadDirty =>
      cases hd : b.serverStateUpdateDirty with
      | true =>
        exact .inr (.inr ⟨hd, .inr (.inr ⟨.exchangeScheduled, by simp [performTask, hd], rfl⟩)⟩)
      | false =>
        refine h.mono (fun hf => ?_) id fun hk => by simp [hk.1] at hd
        simpa [Fresh, FreshAt, hh, performTask, hd, shouldServerRun] using hf
    | exchangeScheduled =>
      simp only [performTask]
      split
      next scheduled =>
        refine h.mono (fun hf => ?_) id fun hk => ⟨hk.1, .inr (.inl scheduled)⟩
        simpa [Fresh, FreshAt, hh, shouldServerRun] using hf
      · exact .inl trivial

theorem followed_take (h : b.Followed) : b.take.Followed := by
  unfold take
  split
  · exact .inl trivial
  · exact h
  · exact h

theorem followed_step (h : b.Followed) (a : BoardAct T) : (b.step a).Followed := by
  cases a with
  | call switch =>
    refine h.mono id ?_ ?_
    · rintro ⟨pt, hc, hp⟩
      exact ⟨pt, mem_append_left _ hc, hp⟩
    · rintro ⟨hd, hl⟩
      exact ⟨hd, hl.imp_left (mem_append_left _)⟩
  | advance i usbCurrent => exact followed_advance h i usbCurrent
  | post task => exact h
  | take => exact followed_take h
  | work => exact followed_work h

/- Start and stop in turn -/

/-- `server_running_` is ahead of the servers only while the task is about to apply it. -/
def AppliedAt (b : Switchboard T) : Option TaskPoint → Prop
  | some (.closeUsb shouldRun) | some (.applyServers shouldRun) =>
    b.serverRunning = shouldRun ∧ latest b.served = !shouldRun
  | _ => latest b.served = b.serverRunning

def InTurn (b : Switchboard T) : Prop := Alternates b.served ∧ b.AppliedAt b.task

theorem inTurn_work (h : b.InTurn) : b.work.InTurn := by
  obtain ⟨hal, ha⟩ := h
  unfold work
  split
  · exact ⟨hal, ha⟩
  next pt hh =>
    rw [hh] at ha
    cases pt with
    | exchangeRunning shouldRun =>
      refine ⟨hal, ?_⟩
      simp only [AppliedAt] at ha
      by_cases hs : b.serverRunning = shouldRun
      · simpa [performTask, AppliedAt, hs] using ha
      · simpa [performTask, AppliedAt, hs, ha] using Bool.eq_not_of_ne hs
    | closeUsb shouldRun => exact ⟨hal, ha⟩
    | applyServers shouldRun =>
      refine ⟨alternates_append hal ha.2, ?_⟩
      simp [performTask, AppliedAt, ha.1]
    | loadAllSessions | loadDirty | reloadDirty | exchangeScheduled =>
      simp only [performTask]
      split <;> exact ⟨hal, ha⟩
    | clearDirty | loadDebugChannel | clearScheduled => exact ⟨hal, ha⟩

theorem inTurn_congr (hi : b.InTurn) (ht : b'.AppliedAt b'.task = b'.AppliedAt b.task)
    (hs : b'.served = b.served) (hr : b'.serverRunning = b.serverRunning) : b'.InTurn := by
  obtain ⟨ha, hap⟩ := hi
  refine ⟨hs ▸ ha, ht ▸ ?_⟩
  unfold AppliedAt at *
  rwa [hs, hr]

theorem inTurn_take (h : b.InTurn) : b.take.InTurn := by
  unfold take
  split
  next hr hw => exact inTurn_congr h (by simp [AppliedAt, hr]) rfl rfl
  · exact h
  · exact h

theorem inTurn_step (h : b.InTurn) (a : BoardAct T) : (b.step a).InTurn := by
  cases a with
  | call switch => exact h
  | advance i usbCurrent =>
    simp only [step, advance]
    split
    · exact h
    next pt hh =>
      obtain ⟨task, hs, hr⟩ := b.perform_frame usbCurrent pt
      exact inTurn_congr h (by rw [task]) hs hr
  | post task => exact h
  | take => exact inTurn_take h
  | work => exact inTurn_work h

/- Whole runs -/

structure Sound (b : Switchboard T) : Prop where
  exclusive : b.Exclusive
  followed : b.Followed
  inTurn : b.InTurn

theorem sound_initial : (initial : Switchboard T).Sound where
  exclusive := rfl
  followed := .inl rfl
  inTurn := ⟨alternates_nil, rfl⟩

theorem sound_step (b : Switchboard T) (a : BoardAct T) (h : b.Sound) : (b.step a).Sound where
  exclusive := exclusive_step h.exclusive a
  followed := followed_step h.followed a
  inTurn := inTurn_step h.inTurn a

theorem Sound.queued (h : b.Sound) : b.queue.countP Posted.isUpdate ≤ 1 := by
  have total := h.exclusive
  have bound := Bool.toNat_le b.serverStateUpdateScheduled
  unfold Exclusive tokens at total
  omega

theorem Sound.settled (hs : b.Sound) (hi : b.Idle) : b.serverRunning = b.shouldServerRun := by
  obtain ⟨hre, hr, ho⟩ := hi
  have hu : b.serverStateUpdateScheduled = false := by
    have total := hs.exclusive
    have none : b.queue.countP Posted.isUpdate = 0 := by simpa using ho
    cases hf : b.serverStateUpdateScheduled with
    | false => rfl
    | true => simp [Exclusive, tokens, hre, hr, none, hf] at total
  rcases hs.followed with hfr | ⟨pt, hc, -⟩ | ⟨-, hc | scheduled | ⟨pt, hru, -⟩⟩
  · simpa [Fresh, FreshAt, hr] using hfr
  · simp [hre] at hc
  · simp [hre] at hc
  · simp [hu] at scheduled
  · simp [hr] at hru

theorem server_follows_switches (acts : List (BoardAct T)) : let b := acts.foldl step initial
    b.queue.countP Posted.isUpdate ≤ 1 ∧ Alternates b.served ∧
      (b.Idle → b.serverRunning = b.shouldServerRun) := by
  intro b
  have hs : b.Sound := invariant_foldl sound_step sound_initial acts
  exact ⟨hs.queued, hs.inTurn.1, hs.settled⟩

end Switchboard

end DebugRouter.Native
