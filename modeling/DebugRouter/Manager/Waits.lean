import Mathlib.Order.Nat
import Mathlib.Data.List.MinMax

/-!
How long the locked section of `MultiplexerDaemonManager` takes. Every sleep and poll takes
its configured bound; what the awaited steps find is an outcome record, so a duration is a
function of the settings and the outcomes. `none` is a wait that never ends, as when a loop
polls with interval zero for something that does not happen.
-/
namespace DebugRouter.Manager

open List Option

/-- All in milliseconds. -/
structure Settings where
  startupTimeout : Nat
  readyPollInterval : Nat
  replacementTimeout : Nat
  healthCheckTimeout : Nat
  rpcTimeout : Nat
  deriving DecidableEq

def spawnLockStaleBuffer : Nat := 1000
def healthProbeRetryCount : Nat := 3
def connectTimeout : Nat := 1000
def connectMaxAttempts : Nat := 3
def connectRetryDelay : Nat := 100
def transportEndTimeout : Nat := 1000

def defaultSettings : Settings where
  startupTimeout := 5000
  readyPollInterval := 50
  replacementTimeout := 1000
  healthCheckTimeout := 500
  rpcTimeout := 5000

def Settings.spawnLockStaleTimeout (s : Settings) : Nat :=
  s.startupTimeout + s.replacementTimeout + spawnLockStaleBuffer

/-- A settled promise: when, and whether it was fulfilled. -/
structure Settled where
  elapsed : Nat
  fulfilled : Bool
  deriving DecidableEq

/-- `while (now() - startedAt <= timeout) { if (stop) return; await round }`: the number of
rounds made before the loop ends, `stop` being the first check that ends it. -/
def pollRounds (round timeout : Nat) (stop : Option Nat) : Nat → Nat → Option Nat
  | 0, _ => none
  | fuel + 1, rounds =>
    if rounds * round ≤ timeout then
      if stop = some rounds then some rounds
      else pollRounds round timeout stop fuel (rounds + 1)
    else some rounds

def pollLoop (round timeout : Nat) (stop : Option Nat) : Option Nat :=
  pollRounds round timeout stop (timeout + 2 + stop.getD 0) 0

/-- The same in closed form: the loop ends at its check or at the first round past the timeout. -/
def roundsMade (round timeout : Nat) (stop : Option Nat) : Option Nat :=
  if round = 0 then stop
  else some (min (stop.getD (timeout / round + 1)) (timeout / round + 1))

theorem pollRounds_spec {round tmo : Nat} (hp : 0 < round) (stop : Option Nat)
    (fuel rounds : Nat)
    (he : rounds ≤ min (stop.getD (tmo / round + 1)) (tmo / round + 1))
    (hen : min (stop.getD (tmo / round + 1)) (tmo / round + 1) < fuel + rounds) :
    pollRounds round tmo stop fuel rounds =
      some (min (stop.getD (tmo / round + 1)) (tmo / round + 1)) := by
  induction fuel generalizing rounds with
  | zero => omega
  | succ fuel ih =>
    have hw : rounds * round ≤ tmo ↔ rounds ≤ tmo / round := (Nat.le_div_iff_mul_le hp).symm
    unfold pollRounds
    split
    next hi =>
      have hi := hw.mp hi
      split
      next now =>
        subst now
        simp only [getD_some, some.injEq] at he ⊢
        omega
      next hn =>
        have later : rounds ≠ min (stop.getD (tmo / round + 1)) (tmo / round + 1) := by
          intro hs
          cases stop with
          | none =>
            simp only [getD_none, Nat.min_self] at hs
            omega
          | some k =>
            simp only [getD_some] at hs
            exact hn (congrArg some (by omega))
        exact ih (rounds + 1) (by omega) (by omega)
    next ho =>
      have ho : ¬ rounds ≤ tmo / round := fun h => ho (hw.mpr h)
      congr 1
      omega

theorem pollRounds_zero (tmo k fuel rounds : Nat) (he : rounds ≤ k)
    (hen : k < fuel + rounds) : pollRounds 0 tmo (some k) fuel rounds = some k := by
  induction fuel generalizing rounds with
  | zero => omega
  | succ fuel ih =>
    unfold pollRounds
    rw [if_pos (by omega)]
    split
    next now => exact now.symm
    next hn =>
      have apart : k ≠ rounds := fun h => hn (congrArg some h)
      exact ih (rounds + 1) (by omega) (by omega)

theorem pollRounds_forever (tmo fuel rounds : Nat) : pollRounds 0 tmo none fuel rounds = none := by
  induction fuel generalizing rounds with
  | zero => rfl
  | succ fuel ih =>
    unfold pollRounds
    rw [if_pos (by omega), if_neg (by simp)]
    exact ih (rounds + 1)

theorem pollLoop_eq (round tmo : Nat) (stop : Option Nat) :
    pollLoop round tmo stop = roundsMade round tmo stop := by
  unfold pollLoop roundsMade
  rcases Nat.eq_zero_or_pos round with hz | positive
  · subst hz
    rw [if_pos rfl]
    cases stop with
    | none => exact pollRounds_forever tmo _ 0
    | some k => exact pollRounds_zero tmo k _ 0 (Nat.zero_le k) (by simp)
  · rw [if_neg (by omega)]
    refine pollRounds_spec positive stop _ 0 (Nat.zero_le _) ?_
    have := Nat.div_le_self tmo round
    omega

/- What the awaited steps of the section find. -/

inductive KillResult where
  | sent | noSuchProcess | failed
  deriving DecidableEq

/-- `goneAfter...` is the first liveness check of the wait that finds the process gone. -/
structure KillOutcome where
  sigterm : KillResult
  goneAfterTerm : Option Nat
  aliveAfterTerm : Bool
  sigkill : KillResult
  goneAfterKill : Option Nat
  aliveAtEnd : Bool
  deriving DecidableEq

/-- The shutdown RPC. `closedAt` is the first connection attempt that finds the client
closed; a handshake and the answer say how long they took and whether they succeeded. -/
structure RpcOutcome where
  hasClient : Bool
  connected : Bool
  closing : Nat
  closedAt : Option Nat
  handshake : Nat → Nat × Bool
  answer : Nat × Bool

inductive StopOutcome where
  | force (find : Nat) (processes : List KillOutcome)
  | gracefulMany (find refind : Nat) (processes : List KillOutcome)
  | gracefulNone (find : Nat) (rpc : RpcOutcome)
  | gracefulOne (find : Nat) (rpc : RpcOutcome) (gone : Option Nat) (alive : Bool)
      (kill : KillOutcome)

/-- The probe that ends `waitUntilReady`, if any, and whether it found a usable daemon. -/
structure ReadyOutcome where
  decisive : Option Nat
  usable : Bool
  deriving DecidableEq

/-- `retries` is set on the debugging path, which probes under the lock. -/
structure SectionOutcome where
  retries : Option Nat
  stop : StopOutcome
  respawn : Option ReadyOutcome

section Section
variable (s : Settings)

def waitUntilProcessExits (gone : Option Nat) : Option Nat :=
  (pollLoop s.readyPollInterval s.replacementTimeout gone).map (· * s.readyPollInterval)

def forceStopProcess (o : KillOutcome) : Option Settled :=
  if o.sigterm = .noSuchProcess then some ⟨0, true⟩
  else do
    let termWait ← waitUntilProcessExits s o.goneAfterTerm
    if o.aliveAfterTerm then
      if o.sigkill = .noSuchProcess then some ⟨termWait, true⟩
      else do
        let killWait ← waitUntilProcessExits s o.goneAfterKill
        some ⟨termWait + killWait, !o.aliveAtEnd⟩
    else some ⟨termWait, !o.aliveAtEnd⟩

def lastFulfilment : List (Option Settled) → Option Nat
  | [] => some 0
  | promise :: promises => do
    let settled ← promise
    let elapsed ← lastFulfilment promises
    some (max settled.elapsed elapsed)

/-- The first rejection, or the last fulfilment. -/
def promiseAll (promises : List (Option Settled)) : Option Settled :=
  let rejections := promises.filterMap fun promise =>
    promise.bind fun settled => if settled.fulfilled then none else some settled.elapsed
  match rejections.min? with
  | some elapsed => some ⟨elapsed, false⟩
  | none => (lastFulfilment promises).map fun elapsed => ⟨elapsed, true⟩

def forceStopDaemon (find : Nat) (processes : List KillOutcome) : Option Settled :=
  (promiseAll (processes.map (forceStopProcess s))).map fun settled =>
    { settled with elapsed := find + settled.elapsed }

/-- The attempts of `connectInternal(false)`, from attempt number `i` on. -/
def connectAttempts (o : RpcOutcome) : Nat → Nat → Nat × Bool
  | 0, _ => (0, false)
  | attempts + 1, i =>
    if o.closedAt = some i then (0, false)
    else if (o.handshake i).2 then (min (o.handshake i).1 connectTimeout, true)
    else
      let rest := connectAttempts o attempts (i + 1)
      (min (o.handshake i).1 connectTimeout + connectRetryDelay + rest.1, rest.2)

def connectInternal (o : RpcOutcome) : Nat × Bool :=
  if o.connected then (0, true)
  else
    let tried := connectAttempts o connectMaxAttempts 0
    (min o.closing transportEndTimeout + tried.1, tried.2)

/-- Always settles; the flag is whether the daemon acknowledged. -/
def sendDaemonShutdownRpc (o : RpcOutcome) : Nat × Bool :=
  if o.hasClient then
    let connection := connectInternal o
    if connection.2 then (connection.1 + min o.answer.1 s.rpcTimeout, o.answer.2)
    else (connection.1, false)
  else (0, false)

def tryGracefullyStopProcess (find : Nat) (rpc : RpcOutcome) (gone : Option Nat) (alive : Bool)
    (kill : KillOutcome) : Option Settled := do
  let asked := sendDaemonShutdownRpc s rpc
  let exitWait ← if asked.2 then waitUntilProcessExits s gone else some 0
  let killed ← if alive then forceStopProcess s kill else some ⟨0, true⟩
  some ⟨find + asked.1 + exitWait + killed.elapsed, killed.fulfilled⟩

/-- `forceStopDaemon` and the three ways through `tryGracefullyStopDaemon`. -/
def stopDaemon : StopOutcome → Option Settled
  | .force find processes => forceStopDaemon s find processes
  | .gracefulMany find refind processes => forceStopDaemon s (find + refind) processes
  | .gracefulNone find rpc => some ⟨find + (sendDaemonShutdownRpc s rpc).1, true⟩
  | .gracefulOne find rpc gone alive kill => tryGracefullyStopProcess s find rpc gone alive kill

def waitUntilReady (o : ReadyOutcome) : Option Settled := do
  let round := s.healthCheckTimeout + s.readyPollInterval
  let rounds ← pollLoop round s.startupTimeout o.decisive
  -- a round past the timeout ends the loop before its probe
  if o.decisive = some rounds ∧ rounds * round ≤ s.startupTimeout then
    some ⟨rounds * round + s.healthCheckTimeout, o.usable⟩
  else some ⟨rounds * round, false⟩

def probeDaemonHealthWithRetry : Option Nat → Nat
  | none => 0
  | some retries => s.healthCheckTimeout +
      min retries healthProbeRetryCount * (s.readyPollInterval + s.healthCheckTimeout)

/-- From the acquired lock to its release; a rejection skips what is left. -/
def holdTime (o : SectionOutcome) : Option Nat := do
  let stopped ← stopDaemon s o.stop
  let before := probeDaemonHealthWithRetry s o.retries + stopped.elapsed
  match o.respawn, stopped.fulfilled with
  | some ready, true => do
    let settled ← waitUntilReady s ready
    some (before + settled.elapsed)
  | _, _ => some before

/- What each step costs at most, read off the settings and the outcomes. -/

def exitCost (gone : Option Nat) : Nat :=
  let most := s.replacementTimeout / s.readyPollInterval + 1
  min (gone.getD most) most * s.readyPollInterval

def killCost (o : KillOutcome) : Nat :=
  if o.sigterm = .noSuchProcess then 0
  else exitCost s o.goneAfterTerm +
    if o.aliveAfterTerm ∧ o.sigkill ≠ .noSuchProcess then exitCost s o.goneAfterKill else 0

def killsCost (processes : List KillOutcome) : Nat := (processes.map (killCost s)).foldr max 0

def stopCost : StopOutcome → Nat
  | .force find processes => find + killsCost s processes
  | .gracefulMany find refind processes => find + refind + killsCost s processes
  | .gracefulNone find rpc => find + (sendDaemonShutdownRpc s rpc).1
  | .gracefulOne find rpc gone alive kill =>
    find + (sendDaemonShutdownRpc s rpc).1 +
      (if (sendDaemonShutdownRpc s rpc).2 then exitCost s gone else 0) +
      (if alive then killCost s kill else 0)

def readyCost (o : ReadyOutcome) : Nat :=
  let round := s.healthCheckTimeout + s.readyPollInterval
  let most := s.startupTimeout / round + 1
  min (o.decisive.getD most * round + s.healthCheckTimeout) (most * round)

def sectionCost (o : SectionOutcome) : Nat :=
  probeDaemonHealthWithRetry s o.retries + stopCost s o.stop + (o.respawn.map (readyCost s)).getD 0

end Section

section Costs
variable {s : Settings} (polls : 0 < s.readyPollInterval)
include polls

theorem waitUntilExits_eq (gone : Option Nat) :
    waitUntilProcessExits s gone = some (exitCost s gone) := by
  have ha : s.readyPollInterval ≠ 0 := Nat.ne_of_gt polls
  simp [waitUntilProcessExits, pollLoop_eq, roundsMade, ha, exitCost]

theorem forceStopProcess_cost (o : KillOutcome) :
    ∃ settled, forceStopProcess s o = some settled ∧ settled.elapsed = killCost s o := by
  unfold forceStopProcess killCost
  split
  · exact ⟨_, rfl, rfl⟩
  · cases ha : o.aliveAfterTerm with
    | false => simp [waitUntilExits_eq polls]
    | true => by_cases hm : o.sigkill = .noSuchProcess <;> simp [waitUntilExits_eq polls, hm]

omit polls in
theorem lastFulfilment_le {bound : Nat} (promises : List (Option Settled))
    (h : ∀ p ∈ promises, ∃ settled, p = some settled ∧ settled.elapsed ≤ bound) :
    ∃ el, lastFulfilment promises = some el ∧ el ≤ bound := by
  induction promises with
  | nil => exact ⟨0, rfl, Nat.zero_le _⟩
  | cons p promises ih =>
    obtain ⟨settled, rfl, hw⟩ := h p (mem_cons_self ..)
    obtain ⟨el, hl, hr⟩ := ih fun q hm => h q (mem_cons_of_mem _ hm)
    exact ⟨max settled.elapsed el, by simp [lastFulfilment, hl], Nat.max_le.mpr ⟨hw, hr⟩⟩

omit polls in
theorem promiseAll_le {bound : Nat} (promises : List (Option Settled))
    (h : ∀ p ∈ promises, ∃ settled, p = some settled ∧ settled.elapsed ≤ bound) :
    ∃ settled, promiseAll promises = some settled ∧ settled.elapsed ≤ bound := by
  unfold promiseAll
  dsimp only
  split
  next el x =>
    refine ⟨_, rfl, ?_⟩
    have hm := min?_mem x
    simp only [mem_filterMap, bind_eq_some_iff] at hm
    obtain ⟨p, hp, settled, rfl, hr⟩ := hm
    obtain ⟨_, hs, hw⟩ := h _ hp
    cases hs
    split at hr
    · cases hr
    · cases hr
      exact hw
  · obtain ⟨el, hl, hw⟩ := lastFulfilment_le promises h
    exact ⟨_, by rw [hl]; rfl, hw⟩

theorem forceStopDaemon_cost (find : Nat) (processes : List KillOutcome) :
    ∃ settled, forceStopDaemon s find processes = some settled ∧
      settled.elapsed ≤ find + killsCost s processes := by
  have each : ∀ p ∈ processes.map (forceStopProcess s),
      ∃ settled, p = some settled ∧ settled.elapsed ≤ killsCost s processes := by
    intro p hm
    obtain ⟨o, hp, rfl⟩ := mem_map.mp hm
    obtain ⟨settled, done, hc⟩ := forceStopProcess_cost polls o
    refine ⟨settled, done, ?_⟩
    rw [hc]
    exact le_max_of_le (mem_map_of_mem hp) (Nat.le_refl _)
  obtain ⟨settled, all, hw⟩ := promiseAll_le _ each
  exact ⟨{ settled with elapsed := find + settled.elapsed },
    by simp [forceStopDaemon, all], Nat.add_le_add_left hw find⟩

theorem stopDaemon_cost (o : StopOutcome) :
    ∃ settled, stopDaemon s o = some settled ∧ settled.elapsed ≤ stopCost s o := by
  cases o with
  | force find processes => exact forceStopDaemon_cost polls find processes
  | gracefulMany find refind processes => exact forceStopDaemon_cost polls (find + refind) processes
  | gracefulNone find rpc => exact ⟨_, rfl, Nat.le_refl _⟩
  | gracefulOne find rpc gone alive kill =>
    obtain ⟨settled, hk, hc⟩ := forceStopProcess_cost polls kill
    unfold stopDaemon tryGracefullyStopProcess stopCost
    cases ha : (sendDaemonShutdownRpc s rpc).2 <;> cases alive <;>
      simp [ha, waitUntilExits_eq polls, hk, hc]

theorem waitUntilReady_cost (o : ReadyOutcome) :
    ∃ settled, waitUntilReady s o = some settled ∧ settled.elapsed ≤ readyCost s o := by
  unfold waitUntilReady readyCost
  dsimp only
  rw [pollLoop_eq, roundsMade, if_neg (by omega)]
  have shorter : s.healthCheckTimeout ≤ s.healthCheckTimeout + s.readyPollInterval :=
    Nat.le_add_right ..
  have above : 0 < s.healthCheckTimeout + s.readyPollInterval := by omega
  generalize s.healthCheckTimeout + s.readyPollInterval = round at *
  generalize hr : min (o.decisive.getD (s.startupTimeout / round + 1))
    (s.startupTimeout / round + 1) = rounds
  have most : rounds * round ≤ (s.startupTimeout / round + 1) * round :=
    Nat.mul_le_mul_right round (by omega)
  have decided : rounds * round ≤ o.decisive.getD (s.startupTimeout / round + 1) * round :=
    Nat.mul_le_mul_right round (by omega)
  rw [bind_eq_bind, bind_some]
  split
  next hi =>
    have before : rounds + 1 ≤ s.startupTimeout / round + 1 :=
      Nat.succ_le_succ ((Nat.le_div_iff_mul_le above).mpr hi.2)
    have whole := Nat.mul_le_mul_right round before
    rw [Nat.add_mul, Nat.one_mul] at whole
    exact ⟨_, rfl, Nat.le_min.mpr ⟨by dsimp only; omega, by dsimp only; omega⟩⟩
  · exact ⟨_, rfl, Nat.le_min.mpr ⟨by dsimp only; omega, most⟩⟩

theorem holdTime_cost (o : SectionOutcome) :
    ∃ el, holdTime s o = some el ∧ el ≤ sectionCost s o := by
  obtain ⟨stopped, hs, hst⟩ := stopDaemon_cost polls o.stop
  unfold holdTime sectionCost
  rw [hs, bind_eq_bind, bind_some]
  cases o.respawn with
  | none => exact ⟨_, rfl, by simpa using hst⟩
  | some ready =>
    obtain ⟨settled, hw, hwa⟩ := waitUntilReady_cost polls ready
    cases stopped.fulfilled with
    | false => exact ⟨_, rfl, by simp only [map_some, getD_some]; omega⟩
    | true =>
      refine ⟨probeDaemonHealthWithRetry s o.retries + stopped.elapsed + settled.elapsed, ?_, ?_⟩
      · simp [hw]
      · simp only [map_some, getD_some]
        omega

end Costs

end DebugRouter.Manager
