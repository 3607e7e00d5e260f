import DebugRouter.Library.Runs
import DebugRouter.Library.OrderedMap
import DebugRouter.Manager.Waits

/-!
Concurrent `ensureDaemon` calls of any number of managers, interleaved at their awaits. The
daemons, who answers at the control endpoint and who uses it change at any time.
-/
namespace DebugRouter.Manager

open Library List

inductive ProbeFault where
  | unreachable | timeout | invalidFrame | invalidResponse
  deriving DecidableEq

/-- `fault` is what a probe of the daemon meets in place of a health response. -/
structure Daemon where
  protocolVersion : Nat
  isInUse : Bool
  fault : Option ProbeFault
  deriving DecidableEq

inductive UsableReason where
  | sameVersion | daemonNewerCompatible
  deriving DecidableEq

inductive Validation where
  | usable (reason : UsableReason) (daemonVersion connectorVersion : Nat)
  | replaceRequired (daemonVersion connectorVersion : Nat)
  | upgradeBlocked (daemonVersion connectorVersion : Nat)
  | unusable (reason : ProbeFault)
  deriving DecidableEq

def compareProtocolVersion (localVersion protocolVersion : Nat) (isInUse : Bool) : Validation :=
  if protocolVersion < localVersion then
    if isInUse then .upgradeBlocked protocolVersion localVersion
    else .replaceRequired protocolVersion localVersion
  else if protocolVersion = localVersion then .usable .sameVersion protocolVersion localVersion
  else .usable .daemonNewerCompatible protocolVersion localVersion

def probeHealth (localVersion : Nat) : Option (Nat × Daemon) → Validation
  | none => .unusable .unreachable
  | some (_, d) =>
    match d.fault with
    | some reason => .unusable reason
    | none => compareProtocolVersion localVersion d.protocolVersion d.isInUse

def isRetryableHealthProbeResult : Validation → Bool
  | .unusable _ => true
  | _ => false

inductive StopMeans where
  | shutdownDaemon | sigterm | sigkill
  deriving DecidableEq

/-- A `forceStopProcess` in flight: the last signal sent, and whether sending one failed. -/
structure Kill where
  pid : Nat
  escalated : Bool
  failed : Bool
  deriving DecidableEq

inductive EnsureResult where
  | ready | retryLater | threw (message : String)
  deriving DecidableEq

/-- Where a call waits. `handling` holds the last validation of the retried probe. -/
inductive Phase where
  | probing (attempt : Nat)
  | handling (validation : Validation)
  | gracefulFinding
  | gracefulAsking (daemonPid : Option Nat)
  | gracefulWaiting (daemonPid : Option Nat)
  | forceFinding
  | killing
  | waiting
  | ended (result : EnsureResult)
  deriving DecidableEq

/-- One `ensureDaemon` call. `seen` is what was bound to the endpoint when its latest probe
was answered, `acquired` tells whether the lock was acquired since. -/
structure Call where
  version : Nat
  phase : Phase
  seen : Option (Nat × Daemon)
  acquired : Bool
  kills : List Kill
  deriving DecidableEq

/-- A request or signal sent to a live daemon, with the sender and the daemon at that moment. -/
structure Stop where
  sender : Call
  means : StopMeans
  target : Nat
  daemon : Daemon
  bound : Bool
  deriving DecidableEq

structure Site where
  daemons : OrderedMap Nat Daemon
  endpoint : Option Nat
  lock : Option Nat
  calls : OrderedMap Nat Call
  stops : List Stop

inductive EnsureAct where
  | environment (daemons : OrderedMap Nat Daemon) (endpoint : Option Nat)
  | ensureDaemon (id version : Nat)
  | probe (id : Nat)
  | handle (id : Nat) (stale : Bool)
  | found (id : Nat) (pids : List Nat) (sigterm : Nat → KillResult)
  | ask (id : Nat) (connects : Bool)
  | exitWaited (id : Nat) (sigterm : KillResult)
  | escalate (id pid : Nat) (sigkill : KillResult)
  | killed (id : Nat)
  | readyTimeout (id : Nat)

namespace Site
variable (site : Site)

def initial (daemons : OrderedMap Nat Daemon) (endpoint : Option Nat) : Site :=
  ⟨daemons, endpoint, none, .empty, []⟩

def isProcessAlive (pid : Nat) : Bool := site.daemons.has pid

def answering : Option (Nat × Daemon) :=
  site.endpoint.bind fun pid => (site.daemons.get? pid).map (pid, ·)

def setCall (id : Nat) (c : Call) : Site := { site with calls := site.calls.set id c }

/-- The stop `c` sends to `pid`; a process that is no daemon is not recorded. -/
def stopTo (c : Call) (means : StopMeans) (pid : Nat) : List Stop :=
  match site.daemons.get? pid with
  | some d => [⟨c, means, pid, d, site.endpoint = some pid⟩]
  | none => []

def send (c : Call) (means : StopMeans) (pid : Nat) : Site :=
  { site with stops := site.stops ++ site.stopTo c means pid }

def releaseSpawnLock (id : Nat) : Site :=
  if site.lock = some id then { site with lock := none } else site

def leave (id : Nat) (c : Call) (result : EnsureResult) : Site :=
  (site.releaseSpawnLock id).setCall id { c with phase := .ended result }

def olderDaemonInUseMessage (daemonVersion connectorVersion : Nat) : String :=
  "Multiplexer daemon protocol " ++ toString daemonVersion ++ " is older " ++
    "than current connector protocol " ++ toString connectorVersion ++ ", " ++
    "but the daemon is still in use by a connector or WebSocket frontend"

def replacementRequiredMessage (daemonVersion connectorVersion : Nat) : String :=
  "Multiplexer daemon protocol " ++ toString daemonVersion ++ " is older " ++
    "than current connector protocol " ++ toString connectorVersion

/-- `tryStartDaemon` up to its first await; without the lock the outer loop probes again. -/
def tryStartDaemon (id : Nat) (c : Call) (stale : Bool) (beforeSpawn : Phase) : Site :=
  if site.lock = none ∨ stale = true then
    { site with lock := some id }.setCall id { c with phase := beforeSpawn, acquired := true }
  else site.setCall id { c with phase := .probing 0 }

def onProbe (id : Nat) (c : Call) : Site :=
  let validation := probeHealth c.version site.answering
  let c := { c with seen := site.answering, acquired := false }
  match c.phase with
  | .probing attempt =>
    if attempt < healthProbeRetryCount ∧ isRetryableHealthProbeResult validation = true then
      site.setCall id { c with phase := .probing (attempt + 1) }
    else site.setCall id { c with phase := .handling validation }
  | .waiting =>
    match validation with
    | .usable .. => site.leave id c .ready
    | .replaceRequired d l => site.leave id c (.threw (replacementRequiredMessage d l))
    | .upgradeBlocked d l => site.leave id c (.threw (olderDaemonInUseMessage d l))
    | .unusable _ => site.setCall id c
  | _ => site

def handleDiscoveryResult (id : Nat) (c : Call) (stale : Bool) : Site :=
  match c.phase with
  | .handling (.usable ..) => site.setCall id { c with phase := .ended .ready }
  | .handling (.replaceRequired ..) => site.tryStartDaemon id c stale .gracefulFinding
  | .handling (.upgradeBlocked d l) =>
    site.setCall id { c with phase := .ended (.threw (olderDaemonInUseMessage d l)) }
  | .handling (.unusable _) => site.tryStartDaemon id c stale .forceFinding
  | _ => site

/-- The start of `forceStopProcess` for each live process: `SIGTERM`, then the wait. -/
def forceStop (id : Nat) (c : Call) (pids : List Nat) (sigterm : Nat → KillResult) : Site :=
  let alive := pids.filter site.isProcessAlive
  let waiting := alive.filter fun pid => sigterm pid ≠ .noSuchProcess
  { site with stops := site.stops ++ alive.flatMap (site.stopTo c .sigterm) }.setCall id
    { c with phase := .killing,
             kills := waiting.map fun pid => ⟨pid, false, decide (sigterm pid = KillResult.failed)⟩ }

def onFound (id : Nat) (c : Call) (pids : List Nat) (sigterm : Nat → KillResult) : Site :=
  match c.phase with
  | .gracefulFinding =>
    if 1 < pids.length then site.setCall id { c with phase := .forceFinding }
    else site.setCall id { c with phase := .gracefulAsking pids.head? }
  | .forceFinding => site.forceStop id c pids sigterm
  | _ => site

/-- The shutdown RPC reaches whichever daemon is bound to the endpoint now. -/
def onAsk (id : Nat) (c : Call) (connects : Bool) : Site :=
  match c.phase with
  | .gracefulAsking daemonPid =>
    let asked :=
      match connects, site.endpoint with
      | true, some target => site.send c .shutdownDaemon target
      | _, _ => site
    asked.setCall id { c with phase := .gracefulWaiting daemonPid }
  | _ => site

def onExitWaited (id : Nat) (c : Call) (sigterm : KillResult) : Site :=
  match c.phase with
  | .gracefulWaiting daemonPid => site.forceStop id c daemonPid.toList fun _ => sigterm
  | _ => site

def onEscalate (id : Nat) (c : Call) (kill : Kill) (sigkill : KillResult) : Site :=
  let others := c.kills.erase kill
  if site.isProcessAlive kill.pid then
    if kill.escalated then
      -- rejects `Promise.all`; the other kills of the call go on behind it
      if c.phase = .killing then
        site.leave id { c with kills := others }
          (if kill.failed then .threw "kill EPERM" else .retryLater)
      else site.setCall id { c with kills := others }
    else
      let sent := site.send c .sigkill kill.pid
      if sigkill = .noSuchProcess then sent.setCall id { c with kills := others }
      else sent.setCall id
        { c with kills := others ++ [⟨kill.pid, true, kill.failed ||
          decide (sigkill = KillResult.failed)⟩] }
  else site.setCall id { c with kills := others }

def onKilled (id : Nat) (c : Call) : Site :=
  if c.phase = .killing ∧ c.kills = [] then site.setCall id { c with phase := .waiting } else site

def onReadyTimeout (id : Nat) (c : Call) : Site :=
  if c.phase = .waiting then site.leave id c .retryLater else site

def withCall (id : Nat) (f : Call → Site) : Site := ((site.calls.get? id).map f).getD site

def step (site : Site) : EnsureAct → Site
  | .environment daemons endpoint => { site with daemons := daemons, endpoint := endpoint }
  | .ensureDaemon id version =>
    if site.calls.has id then site else site.setCall id ⟨version, .probing 0, none, false, []⟩
  | .probe id => site.withCall id (site.onProbe id)
  | .handle id stale => site.withCall id (site.handleDiscoveryResult id · stale)
  | .found id pids sigterm => site.withCall id (site.onFound id · pids sigterm)
  | .ask id connects => site.withCall id (site.onAsk id · connects)
  | .exitWaited id sigterm => site.withCall id (site.onExitWaited id · sigterm)
  | .escalate id pid sigkill => site.withCall id fun c =>
    match c.kills.find? (·.pid = pid) with
    | some kill => site.onEscalate id c kill sigkill
    | none => site
  | .killed id => site.withCall id (site.onKilled id)
  | .readyTimeout id => site.withCall id (site.onReadyTimeout id)

end Site

/-- The stop spares a daemon that answers as usable for its sender or is in use. -/
def Stop.Spares (stop : Stop) : Prop :=
  ¬ (stop.bound = true ∧ stop.daemon.fault = none ∧
    stop.sender.version ≤ stop.daemon.protocolVersion) ∧
    stop.daemon.isInUse = false

/-- The call acquired the lock after its latest probe, which was answered, if at all, by an older
daemon in nobody's use. -/
structure Call.Cleared (c : Call) : Prop where
  acquired : c.acquired = true
  older : ∀ {pid d}, c.seen = some (pid, d) → d.fault = none →
    d.protocolVersion < c.version ∧ d.isInUse = false

/-- What a call may rely on where it waits. Only a cleared call stops daemons. -/
def Call.Entitled (c : Call) : Prop :=
  match c.phase with
  | .probing _ | .waiting => c.kills = []
  | .handling validation => c.kills = [] ∧ validation = probeHealth c.version c.seen
  | .gracefulFinding | .gracefulAsking _ | .gracefulWaiting _ | .forceFinding | .killing => c.Cleared
  | .ended _ => c.kills = [] ∨ c.Cleared

variable {localVersion pid : Nat} {d : Daemon} {kill : Kill}

theorem older_of_replaceRequired {daemonVersion connectorVersion : Nat}
    (hv : probeHealth localVersion (some (pid, d)) =
      .replaceRequired daemonVersion connectorVersion) (ha : d.fault = none) :
    d.protocolVersion < localVersion ∧ d.isInUse = false := by
  simp only [probeHealth, ha, compareProtocolVersion] at hv
  split at hv
  next ho =>
    split at hv
    · cases hv
    next hu => exact ⟨ho, by simpa using hu⟩
  · split at hv <;> cases hv

theorem fault_of_unusable {reason : ProbeFault}
    (h : probeHealth localVersion (some (pid, d)) = .unusable reason) :
    d.fault = some reason := by
  cases fault : d.fault with
  | some o =>
    simp only [probeHealth, fault, Validation.unusable.injEq] at h
    rw [h]
  | none =>
    simp only [probeHealth, fault, compareProtocolVersion] at h
    split at h <;> split at h <;> cases h

theorem Call.Entitled.cleared {c : Call} (he : c.Entitled) (hm : kill ∈ c.kills) : c.Cleared := by
  have hb : c.kills ≠ [] := ne_nil_of_mem hm
  unfold Call.Entitled at he
  split at he
  · exact absurd he hb
  · exact absurd he hb
  · exact absurd he.1 hb
  · exact he
  · exact he
  · exact he
  · exact he
  · exact he
  · exact he.resolve_left hb

theorem Call.Entitled.withKills {c : Call} (he : c.Entitled)
    (hm : kill ∈ c.kills) (kills : List Kill) : Call.Entitled { c with kills := kills } := by
  have busy : c.kills ≠ [] := ne_nil_of_mem hm
  have hc := he.cleared hm
  have same : Call.Cleared { c with kills := kills } := ⟨hc.acquired, hc.older⟩
  unfold Call.Entitled at he ⊢
  split at he <;> simp_all

namespace Site
variable {site : Site} {id : Nat} {c : Call}

structure Sound (site : Site) : Prop where
  calls : ∀ id c, site.calls.get? id = some c → c.Entitled
  stops : ∀ stop ∈ site.stops, stop.sender.Cleared

theorem Sound.setCall (hs : site.Sound) (he : c.Entitled) :
    (site.setCall id c).Sound where
  calls o q found := by
    simp only [Site.setCall, OrderedMap.get?_set] at found
    split at found
    · cases found
      exact he
    · exact hs.calls o q found
  stops := hs.stops

theorem sender_of_stopTo {means : StopMeans} {stop : Stop}
    (h : stop ∈ site.stopTo c means pid) : stop.sender = c := by
  unfold stopTo at h
  split at h
  · rw [mem_singleton.mp h]
  · cases h

theorem Sound.append (hs : site.Sound) {more : List Stop} (hc : ∀ stop ∈ more, stop.sender.Cleared) :
    Sound { site with stops := site.stops ++ more } where
  calls := hs.calls
  stops stop member := by
    rcases mem_append.mp member with hb | now
    · exact hs.stops stop hb
    · exact hc stop now

theorem Sound.send (hs : site.Sound) (hc : c.Cleared) (means : StopMeans) (pid : Nat) :
    (site.send c means pid).Sound := by
  apply hs.append
  intro stop hm
  rw [sender_of_stopTo hm]
  exact hc

theorem Sound.leave (hs : site.Sound) {result : EnsureResult}
    (he : c.kills = [] ∨ c.Cleared) : (site.leave id c result).Sound := by
  have freed : (site.releaseSpawnLock id).Sound := by
    unfold releaseSpawnLock
    split
    · exact ⟨hs.calls, hs.stops⟩
    · exact hs
  refine freed.setCall ?_
  exact he.imp_right fun hc => ⟨hc.acquired, hc.older⟩

theorem Sound.tryStartDaemon (hs : site.Sound) {beforeSpawn : Phase} {stale : Bool}
    (hi : c.kills = [])
    (hst : Call.Entitled { c with phase := beforeSpawn, acquired := true }) :
    (site.tryStartDaemon id c stale beforeSpawn).Sound := by
  unfold Site.tryStartDaemon
  split
  · exact Sound.setCall ⟨hs.calls, hs.stops⟩ hst
  · exact hs.setCall hi

theorem Sound.onProbe (hs : site.Sound) (he : c.Entitled) : (site.onProbe id c).Sound := by
  unfold Site.onProbe
  dsimp only
  split
  next attempt hp =>
    have hi : c.kills = [] := by simpa [Call.Entitled, hp] using he
    split
    · exact hs.setCall hi
    · exact hs.setCall ⟨hi, rfl⟩
  next hp =>
    have hi : c.kills = [] := by simpa [Call.Entitled, hp] using he
    split
    · exact hs.leave (.inl hi)
    · exact hs.leave (.inl hi)
    · exact hs.leave (.inl hi)
    · exact hs.setCall (by simpa [Call.Entitled, hp] using hi)
  · exact hs

theorem Sound.handleDiscoveryResult (hso : site.Sound) (he : c.Entitled) (stale : Bool) :
    (site.handleDiscoveryResult id c stale).Sound := by
  unfold Site.handleDiscoveryResult
  split
  next hp =>
    simp only [Call.Entitled, hp] at he
    exact hso.setCall (.inl he.1)
  next hp =>
    simp only [Call.Entitled, hp] at he
    refine hso.tryStartDaemon he.1 ⟨rfl, fun {pid d} hs ha => ?_⟩
    exact older_of_replaceRequired (hs ▸ he.2.symm) ha
  next hp =>
    simp only [Call.Entitled, hp] at he
    exact hso.setCall (.inl he.1)
  next hp =>
    simp only [Call.Entitled, hp] at he
    refine hso.tryStartDaemon he.1 ⟨rfl, fun {pid d} hs ha => ?_⟩
    have fault := fault_of_unusable (hs ▸ he.2.symm)
    rw [ha] at fault
    cases fault
  · exact hso

theorem Sound.forceStop (hso : site.Sound) (hc : c.Cleared) (pids : List Nat)
    (sigterm : Nat → KillResult) : (site.forceStop id c pids sigterm).Sound := by
  refine (hso.append ?_).setCall ⟨hc.acquired, hc.older⟩
  intro stop hm
  obtain ⟨pid, -, hs⟩ := mem_flatMap.mp hm
  rw [sender_of_stopTo hs]
  exact hc

theorem Sound.onFound (hs : site.Sound) (he : c.Entitled) (pids : List Nat)
    (sigterm : Nat → KillResult) : (site.onFound id c pids sigterm).Sound := by
  unfold Site.onFound
  split
  next hp =>
    have hc : c.Cleared := by simpa [Call.Entitled, hp] using he
    split
    · exact hs.setCall ⟨hc.acquired, hc.older⟩
    · exact hs.setCall ⟨hc.acquired, hc.older⟩
  next hp => exact hs.forceStop (by simpa [Call.Entitled, hp] using he) pids sigterm
  · exact hs

theorem Sound.onAsk (hs : site.Sound) (he : c.Entitled) (connects : Bool) :
    (site.onAsk id c connects).Sound := by
  unfold Site.onAsk
  split
  next hp =>
    have hc : c.Cleared := by simpa [Call.Entitled, hp] using he
    dsimp only
    split
    · exact (hs.send hc _ _).setCall ⟨hc.acquired, hc.older⟩
    · exact hs.setCall ⟨hc.acquired, hc.older⟩
  · exact hs

theorem Sound.onExitWaited (hs : site.Sound) (he : c.Entitled) (sigterm : KillResult) :
    (site.onExitWaited id c sigterm).Sound := by
  unfold Site.onExitWaited
  split
  next hp => exact hs.forceStop (by simpa [Call.Entitled, hp] using he) _ _
  · exact hs

theorem Sound.onEscalate (hso : site.Sound) (he : c.Entitled)
    (hm : kill ∈ c.kills) (sigkill : KillResult) : (site.onEscalate id c kill sigkill).Sound := by
  have hc := he.cleared hm
  have sent := hso.send hc .sigkill kill.pid
  unfold Site.onEscalate
  dsimp only
  split
  · split
    · split
      · exact hso.leave (.inr ⟨hc.acquired, hc.older⟩)
      · exact hso.setCall (he.withKills hm _)
    · split
      · exact sent.setCall (he.withKills hm _)
      · exact sent.setCall (he.withKills hm _)
  · exact hso.setCall (he.withKills hm _)

theorem Sound.onKilled (h : site.Sound) : (site.onKilled id c).Sound := by
  unfold Site.onKilled
  split
  next done => exact h.setCall done.2
  · exact h

theorem Sound.onReadyTimeout (hs : site.Sound) (he : c.Entitled) :
    (site.onReadyTimeout id c).Sound := by
  unfold Site.onReadyTimeout
  split
  next hp => exact hs.leave (.inl (by simpa [Call.Entitled, hp] using he))
  · exact hs

theorem Sound.withCall (hs : site.Sound) {f : Call → Site}
    (he : ∀ c, c.Entitled → (f c).Sound) : (site.withCall id f).Sound := by
  unfold Site.withCall
  cases hf : site.calls.get? id with
  | none => exact hs
  | some c => exact he c (hs.calls id c hf)

theorem Sound.step (h : site.Sound) (act : EnsureAct) : (step site act).Sound := by
  cases act with
  | environment daemons endpoint => exact ⟨h.calls, h.stops⟩
  | ensureDaemon id version =>
    simp only [Site.step]
    split
    · exact h
    · exact h.setCall rfl
  | probe id => exact h.withCall fun c he => h.onProbe he
  | handle id stale => exact h.withCall fun c he => h.handleDiscoveryResult he stale
  | found id pids sigterm => exact h.withCall fun c he => h.onFound he pids sigterm
  | ask id connects => exact h.withCall fun c he => h.onAsk he connects
  | exitWaited id sigterm => exact h.withCall fun c he => h.onExitWaited he sigterm
  | escalate id pid sigkill =>
    apply h.withCall
    intro c he
    split
    next kill found => exact h.onEscalate he (mem_of_find?_eq_some found) sigkill
    · exact h
  | killed id => exact h.withCall fun c _ => h.onKilled
  | readyTimeout id => exact h.withCall fun c he => h.onReadyTimeout he

/-- Every stop is sent by a call that took the lock after a probe which no usable daemon and
no older daemon in use answered. -/
theorem stops_cleared (daemons : OrderedMap Nat Daemon) (endpoint : Option Nat)
    (acts : List EnsureAct) :
    Throughout step (fun site => ∀ stop ∈ site.stops, stop.sender.Cleared)
      (initial daemons endpoint) acts := by
  have start : (initial daemons endpoint).Sound :=
    ⟨fun id c hf => by simp [initial] at hf, fun stop hm => by simp [initial] at hm⟩
  have kept : ∀ site act, Sound site → Sound (step site act) := fun site act hs => hs.step act
  have run := throughout_of_invariant kept start acts
  exact throughout_mono (fun site hs => hs.stops) run

/-- Call 2 starts a daemon while call 1 is between its last probe and the lock. -/
def lateLockRun : List EnsureAct :=
  let starting : Daemon := ⟨2, false, some .unreachable⟩
  let ready : Daemon := ⟨2, true, none⟩
  [.ensureDaemon 2 2, .probe 2, .probe 2, .probe 2, .probe 2, .handle 2 false,
    .found 2 [] (fun _ => .sent), .killed 2, .environment (OrderedMap.empty.set 100 starting) none,
    .ensureDaemon 1 2, .probe 1, .probe 1, .probe 1, .probe 1,
    .environment (OrderedMap.empty.set 100 ready) (some 100), .probe 2,
    .handle 1 false, .found 1 [100] (fun _ => .sent)]

/-- Call 1 then sends `SIGTERM` to a daemon of its own version that answers probes and is in
use. -/
theorem usable_daemon_stopped :
    ¬ ∀ stop ∈ (lateLockRun.foldl step (initial .empty none)).stops, stop.Spares := by
  intro hs
  have sent : (lateLockRun.foldl step (initial .empty none)).stops =
      [⟨⟨2, .forceFinding, none, true, []⟩, .sigterm, 100, ⟨2, true, none⟩, true⟩] := by
    decide +kernel
  rw [sent, forall_mem_singleton] at hs
  exact hs.1 ⟨rfl, rfl, Nat.le_refl 2⟩

end Site

end DebugRouter.Manager
