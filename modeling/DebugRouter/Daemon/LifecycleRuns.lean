import DebugRouter.Daemon.WebSocketStartups

/-!
The life of the Host over every interleaving of its calls. A Host starts once and stops once; `stop`
waits for the start and for the startup of the WebSocket server, so its cleanup runs alone, and what
it drops does not come back.
-/
namespace DebugRouter.Daemon

open Library

namespace StartPoint

def running : StartPoint → Bool
  | .listening | .claiming => true
  | _ => false

def pending : StartPoint → Bool
  | .listening | .claiming | .succeeded | .failed => true
  | _ => false

def unready : StartPoint → Bool
  | .listening | .claiming | .failed => true
  | _ => false

theorem pending_of_unready {p : StartPoint} (h : p.unready = true) : p.pending = true := by
  cases p <;> first | rfl | cases h

end StartPoint

/-- No start is left whose promise the Host keeps. -/
def Ended (starts : List StartPoint) : Prop :=
  starts = [] ∨ ∃ p : StartPoint, starts = [p] ∧ p.pending = false

theorem not_ended {p : StartPoint} (h : p.pending = true) : ¬ Ended [p] := by
  rintro (none | ⟨p', hs, hc⟩)
  · cases none
  · cases hs
    rw [h] at hc
    cases hc

namespace StopPoint

/-- How far a stop is; from 2 on it is in `stopInternal`. -/
def rank : StopPoint → Nat
  | .awaitingStart _ => 0
  | .awaitingWebSocket _ => 1
  | .closingController => 2
  | .stoppingControlServer => 3
  | .closingPhysical => 4
  | .closingRecorder => 5
  | .done => 6

end StopPoint

/-- What the Host knows of its starts and stops, and how often `stopInternal` was entered. -/
inductive Course : LifecycleStatus → List StartPoint → Option Nat → List StopPoint → Nat → Prop where
  | fresh : Course .uninitialized [] none [] 0
  | starting (p : StartPoint) (unready : p.unready = true) : Course .uninitialized [p] (some 0) [] 0
  | succeeded : Course .ready [.succeeded] (some 0) [] 0
  | ready : Course .ready [.settled true] none [] 0
  | awaiting (p : StartPoint) :
      Course .closed [p] (if p.pending then some 0 else none) [.awaitingStart 0] 0
  | stopping (starts : List StartPoint) (q : StopPoint) (ended : Ended starts) (past : 1 ≤ q.rank) :
      Course .closed starts none [q] (if 2 ≤ q.rank then 1 else 0)

namespace Course
variable {st : LifecycleStatus} {starts : List StartPoint} {pr : Option Nat}
variable {stops : List StopPoint} {n : Nat}

theorem unstopped (hc : Course st starts pr stops n) (ho : st ≠ .closed) : stops = [] ∧ n = 0 := by
  cases hc <;> first | exact ⟨rfl, rfl⟩ | exact absurd rfl ho

theorem once (h : Course st starts pr stops n) : n ≤ 1 := by
  cases h with
  | stopping starts q he hp =>
    split
    · exact Nat.le.refl
    · exact Nat.zero_le 1
  | _ => exact Nat.zero_le 1

theorem unstarted (hc : Course st starts pr stops n) (ho : st ≠ .closed)
    (hu : st ≠ .ready) (hi : pr = none) : starts = [] ∧ st = .uninitialized := by
  cases hc <;> first | exact ⟨rfl, rfl⟩ | exact absurd rfl ho | exact absurd rfl hu | cases hi

variable {k : Nat} {p p' : StartPoint} {q : StopPoint}

theorem only_start (hc : Course st starts pr stops n) (hh : starts[k]? = some p) :
    k = 0 ∧ starts = [p] := by
  have hs : ∀ p' : StartPoint, starts = [p'] → k = 0 ∧ starts = [p] := by
    rintro p' rfl
    cases k with
    | zero => exact ⟨rfl, congrArg (· :: []) (Option.some.inj hh)⟩
    | succ k => cases hh
  cases hc with
  | fresh => cases hh
  | starting p' hu => exact hs p' rfl
  | succeeded | ready => exact hs _ rfl
  | awaiting p' => exact hs p' rfl
  | stopping starts q he hp =>
    rcases he with rfl | ⟨p', rfl, -⟩
    · cases hh
    · exact hs p' rfl

theorem only_stop (hc : Course st starts pr stops n)
    (hh : stops[k]? = some q) : k = 0 ∧ stops = [q] ∧ st = .closed := by
  have hs : ∀ q' : StopPoint, stops = [q'] → k = 0 ∧ stops = [q] := by
    rintro q' rfl
    cases k with
    | zero => exact ⟨rfl, congrArg (· :: []) (Option.some.inj hh)⟩
    | succ k => cases hh
  cases hc with
  | fresh | starting p hu | succeeded | ready => cases hh
  | awaiting p | stopping starts q he hp => exact ⟨(hs _ rfl).1, (hs _ rfl).2, rfl⟩

theorem pending_early (hc : Course st [p] pr stops n) (hpe : p.pending = true) :
    ∀ q ∈ stops, q.rank = 0 := by
  cases hc with
  | starting | succeeded | ready => nofun
  | awaiting p =>
    intro q hi
    rw [List.mem_singleton.mp hi]
    rfl
  | stopping starts q he hp => exact absurd he (not_ended hpe)

theorem stopping_of (hc : Course st starts pr [q] n) (hp : 1 ≤ q.rank) :
    pr = none ∧ n = (if 2 ≤ q.rank then 1 else 0) ∧ Ended starts := by
  cases hc with
  | awaiting p => cases hp
  | stopping starts q he hp => exact ⟨rfl, rfl, he⟩

theorem awaiting_of (h : Course st starts pr [.awaitingStart k] n) :
    ∃ p : StartPoint, k = 0 ∧ n = 0 ∧ starts = [p] ∧ pr = if p.pending then some 0 else none := by
  cases h with
  | awaiting p => exact ⟨p, rfl, rfl, rfl, rfl⟩
  | stopping starts q he hp => cases hp

theorem promised (hc : Course st starts pr stops n) (ho : st ≠ .closed)
    (hk : pr = some k) : ∃ p : StartPoint, k = 0 ∧ starts = [p] ∧ p.pending = true := by
  cases hc with
  | fresh => cases hk
  | starting p hu => exact ⟨p, (Option.some.inj hk).symm, rfl, StartPoint.pending_of_unready hu⟩
  | succeeded => exact ⟨_, (Option.some.inj hk).symm, rfl, rfl⟩
  | ready => cases hk
  | awaiting | stopping => exact absurd rfl ho

theorem unpromised (hc : Course st starts pr stops n) (ho : st ≠ .closed) (hf : pr = none) :
    Ended starts := by
  cases hc with
  | fresh => exact .inl rfl
  | starting | succeeded => cases hf
  | ready => exact .inr ⟨_, rfl, rfl⟩
  | awaiting | stopping => exact absurd rfl ho

theorem unready_status (hc : Course st [p] pr stops n) (hu : p.unready = true) :
    st = .uninitialized ∧ pr = some 0 ∨ st = .closed := by
  cases hc with
  | starting => exact .inl ⟨rfl, rfl⟩
  | succeeded | ready => cases hu
  | awaiting | stopping => exact .inr rfl

/- The moves of a start -/

theorem progress (hc : Course st [p] pr stops n) (hu : p.unready = true)
    (unready' : p'.unready = true) : Course st [p'] pr stops n := by
  have hp := StartPoint.pending_of_unready hu
  cases hc with
  | starting p hu => exact .starting p' unready'
  | succeeded | ready => cases hu
  | awaiting p =>
    have kept := Course.awaiting p'
    rw [StartPoint.pending_of_unready unready'] at kept
    rw [hp]
    exact kept
  | stopping starts q he hpa => exact absurd he (not_ended hp)

theorem outlast (h : Course .closed [.claiming] pr stops n) :
    Course .closed [.succeeded] pr stops n := by
  cases h with
  | awaiting p => exact .awaiting .succeeded
  | stopping starts q he hp => exact absurd he (not_ended rfl)

theorem retire (hco : Course .closed [p] pr stops n) (hc : p'.pending = false) :
    Course .closed [p'] none stops n := by
  cases hco with
  | awaiting p =>
    have kept := Course.awaiting p'
    rw [hc] at kept
    exact kept
  | stopping starts q he hp => exact .stopping [p'] q (.inr ⟨p', rfl, hc⟩) hp

theorem settle (h : Course st [.succeeded] pr stops n) : Course st [.settled true] none stops n := by
  cases h with
  | starting p hu => cases hu
  | succeeded => exact .ready
  | awaiting p => exact .awaiting (.settled true)
  | stopping starts q he hp => exact absurd he (not_ended rfl)

theorem failed_closed (hco : Course st [p] pr stops n) (hc : p.pending = false)
    (hf : p ≠ .settled true) : st = .closed ∧ pr = none := by
  cases hco with
  | starting p hu =>
    rw [StartPoint.pending_of_unready hu] at hc
    cases hc
  | succeeded => cases hc
  | ready => exact absurd rfl hf
  | awaiting p =>
    rw [hc]
    exact ⟨rfl, rfl⟩
  | stopping starts q he hp => exact ⟨rfl, rfl⟩

end Course

namespace LifeHost
variable {h : LifeHost}

structure Staged (h : LifeHost) (q : StopPoint) : Prop where
  waits : ∀ j, q = .awaitingWebSocket j → ∀ i, h.web.webSocketServerStarting = some i → i = j
  silent : 2 ≤ q.rank → h.consumers.idleTimer = false
  unserved : 3 ≤ q.rank → h.controlServer = false
  unplugged : 4 ≤ q.rank → h.physicalClosed = true
  clean : 5 ≤ q.rank → h.pendingRoutes = [] ∧ h.watcherMarks = []

structure Ordered (h : LifeHost) : Prop where
  course : Course h.lifecycleStatus h.starts h.startingPromise h.stops h.stopInternals
  web : h.web.Sound (0 < h.stopInternals)
  staged : ∀ q ∈ h.stops, h.Staged q

theorem Ordered.open_stops (hor : h.Ordered) (ho : h.lifecycleStatus ≠ .closed) :
    h.stops = [] ∧ h.stopInternals = 0 := hor.course.unstopped ho

/- `stop` -/

structure Reached (h : LifeHost) (reached : LifeHost × StopPoint) : Prop where
  lifecycleStatus : reached.1.lifecycleStatus = h.lifecycleStatus
  startingPromise : reached.1.startingPromise = h.startingPromise
  starts : reached.1.starts = h.starts
  past : 1 ≤ reached.2.rank
  count : reached.1.stopInternals = if 2 ≤ reached.2.rank then 1 else 0
  web : reached.1.web.Sound (0 < reached.1.stopInternals)
  staged : reached.1.Staged reached.2

variable {reached : LifeHost × StopPoint} {q : StopPoint} {controlServer : Bool}

theorem Reached.ordered_of (ha : h.Reached reached)
    (hc : h.lifecycleStatus = .closed) (hf : h.startingPromise = none) {starts : List StartPoint}
    (he : Ended starts) : Ordered { reached.1 with starts := starts, stops := [reached.2] } := by
  constructor
  · dsimp only
    rw [ha.lifecycleStatus, ha.startingPromise, hc, hf, ha.count]
    exact .stopping starts reached.2 he ha.past
  · exact ha.web
  · intro q hi
    rw [List.mem_singleton.mp hi]
    exact ⟨ha.staged.waits, ha.staged.silent, ha.staged.unserved, ha.staged.unplugged,
      ha.staged.clean⟩

theorem Reached.ordered (ha : h.Reached reached)
    (hc : h.lifecycleStatus = .closed) (hf : h.startingPromise = none) (he : Ended h.starts) :
    Ordered { reached.1 with stops := [reached.2] } := by
  rw [← ha.starts] at he
  exact ha.ordered_of hc hf he

theorem Reached.setStop (ha : h.Reached reached)
    (hs : h.stops = [q]) (hc : h.lifecycleStatus = .closed) (hf : h.startingPromise = none)
    (he : Ended h.starts) : (h.setStop 0 reached).Ordered := by
  unfold LifeHost.setStop
  rw [hs]
  exact ha.ordered hc hf he

theorem reached_stopInternal (x : h.stopInternals = 0) (hs : h.web.Sound (0 < h.stopInternals))
    (hi : h.web.webSocketServerStarting = none) : h.Reached h.stopInternal := by
  have web : h.web.detached.Sound (0 < h.stopInternals + 1) := by
    have hd := hs.detached hi
    rw [← eq_true (Nat.succ_pos h.stopInternals)] at hd
    exact hd
  unfold stopInternal
  dsimp only
  split
  · refine ⟨rfl, rfl, rfl, Nat.succ_pos _, ?_, web, nofun, fun _ => rfl, nofun, nofun, nofun⟩
    rw [x]
    rfl
  · refine ⟨rfl, rfl, rfl, Nat.succ_pos _, ?_, web, nofun, fun _ => rfl, fun _ => rfl, nofun, nofun⟩
    rw [x]
    rfl

theorem reached_afterStart (x : h.stopInternals = 0) (hso : h.web.Sound (0 < h.stopInternals)) :
    h.Reached h.afterStart := by
  unfold afterStart
  split
  next su hs =>
    refine ⟨rfl, rfl, rfl, Nat.succ_pos _, x, hso, ?_, nofun, nofun, nofun, nofun⟩
    rintro j ⟨⟩ i hk
    exact Option.some.inj (hk.symm.trans hs)
  next hi => exact reached_stopInternal x hso hi

theorem Ordered.next (ho : h.Ordered) {q' : StopPoint} (hs : h.stops = [q]) (hi : 2 ≤ q.rank)
    (hfu : 2 ≤ q'.rank) {physicalClosed : Bool} {pendingRoutes : List Nat}
    {watcherMarks : List String}
    (hst : h.Staged q → Staged { h with
      controlServer := controlServer
      physicalClosed := physicalClosed
      pendingRoutes := pendingRoutes
      watcherMarks := watcherMarks } q') :
    Ordered (h.setStop 0 ({ h with
      controlServer := controlServer
      physicalClosed := physicalClosed
      pendingRoutes := pendingRoutes
      watcherMarks := watcherMarks }, q')) := by
  have hh : h.stops[0]? = some q := by rw [hs]; rfl
  obtain ⟨-, -, hcl⟩ := ho.course.only_stop hh
  have hc := ho.course
  rw [hs] at hc
  obtain ⟨hf, he, hen⟩ := hc.stopping_of (Nat.le_of_succ_le hi)
  rw [if_pos hi] at he
  refine Reached.setStop ⟨rfl, rfl, rfl, Nat.le_of_succ_le hfu, ?_, ho.web, ?_⟩ hs hcl hf hen
  · rw [if_pos hfu]
    exact he
  · exact hst (ho.staged q (List.mem_of_getElem? hh))

theorem Ordered.beginStop (ho : h.Ordered) (hop : h.lifecycleStatus ≠ .closed) :
    h.beginStop.Ordered := by
  obtain ⟨none, x⟩ := ho.open_stops hop
  unfold LifeHost.beginStop
  dsimp only
  split
  next start hk =>
    obtain ⟨p, rfl, hs, hp⟩ := ho.course.promised hop hk
    refine ⟨?_, ho.web, ?_⟩
    · have hc := Course.awaiting p
      rw [hp] at hc
      dsimp only
      rw [none, x, hk, hs]
      exact hc
    · dsimp only
      rw [none]
      intro q hi
      rw [List.mem_singleton.mp hi]
      exact ⟨nofun, nofun, nofun, nofun, nofun⟩
  next hf =>
    have ha := reached_afterStart (h := { h with lifecycleStatus := .closed }) x ho.web
    have ended := ho.course.unpromised hop hf
    simpa only [none, List.nil_append] using ha.ordered rfl hf ended

theorem Ordered.idle_of_settled (ho : h.Ordered) {su : Nat} (hst : h.Staged (.awaitingWebSocket su))
    (hs : h.web.startups[su]?.any startupSettled = true) : h.web.webSocketServerStarting = none := by
  rw [Option.eq_none_iff_forall_not_mem]
  intro i hk
  obtain rfl := hst.waits su rfl i hk
  obtain ⟨p, hh, hu⟩ := ho.web.meant i hk
  rw [hh] at hs
  rw [StartupPoint.underWay, show startupSettled p = true from hs] at hu
  cases hu

theorem Ordered.advanceStop (ho : h.Ordered) (stop : Nat) : (h.advanceStop stop).Ordered := by
  unfold LifeHost.advanceStop
  split
  · exact ho
  all_goals
    rename_i hh
    obtain ⟨rfl, hsi, hcl⟩ := ho.course.only_stop hh
    have hc := ho.course
    rw [hsi] at hc
    have hs := ho.staged _ (List.mem_of_getElem? hh)
  · split
    next hse =>
      obtain ⟨p, rfl, first, hst, hp⟩ := hc.awaiting_of
      rw [hst] at hse
      have ceased : p.pending = false := by
        cases p <;> first | rfl | cases hse
      rw [ceased] at hp
      exact (reached_afterStart first ho.web).setStop hsi hcl hp (.inr ⟨p, hst, ceased⟩)
    · exact ho
  · split
    next hse =>
      obtain ⟨hf, hen, he⟩ := hc.stopping_of Nat.le.refl
      have idle := ho.idle_of_settled hs hse
      exact (reached_stopInternal hen ho.web idle).setStop hsi hcl hf he
    · exact ho
  · exact ho.next hsi Nat.le.refl (Nat.le_add_left 2 _) fun hs =>
      ⟨nofun, fun _ => hs.silent Nat.le.refl, fun _ => rfl, nofun, nofun⟩
  · exact ho.next hsi (Nat.le_add_left 2 _) (Nat.le_add_left 2 _) fun hs =>
      ⟨nofun, fun _ => hs.silent (Nat.le_add_left 2 _), fun _ => hs.unserved Nat.le.refl,
        fun _ => rfl, nofun⟩
  · exact ho.next hsi (Nat.le_add_left 2 _) (Nat.le_add_left 2 _) fun hs =>
      ⟨nofun, fun _ => hs.silent (Nat.le_add_left 2 _), fun _ => hs.unserved (Nat.le_add_left 3 _),
        fun _ => hs.unplugged Nat.le.refl, fun _ => ⟨rfl, rfl⟩⟩
  · exact ho.next hsi (Nat.le_add_left 2 _) (Nat.le_add_left 2 _) fun hs =>
      ⟨nofun, fun _ => hs.silent (Nat.le_add_left 2 _), fun _ => hs.unserved (Nat.le_add_left 3 _),
        fun _ => hs.unplugged (Nat.le_add_left 4 _), fun _ => hs.clean Nat.le.refl⟩
  · exact ho

/- `start` -/

theorem Ordered.start (hor : h.Ordered) : h.start.Ordered := by
  unfold LifeHost.start
  split
  · exact hor
  next ho =>
    split
    · exact hor
    next hun =>
      split
      · exact hor
      next hi =>
        have free : h.startingPromise = none := by simpa using hi
        obtain ⟨hh, hu⟩ := hor.course.unstarted ho hun free
        obtain ⟨none, x⟩ := hor.open_stops ho
        refine ⟨?_, hor.web, ?_⟩
        · dsimp only
          rw [hh, hu, none, x]
          exact .starting .listening rfl
        · dsimp only
          rw [none]
          nofun

theorem Ordered.setStart (ho : h.Ordered) {p p' : StartPoint} {pr : Option Nat}
    (hsi : h.starts = [p]) (hc : Course h.lifecycleStatus [p'] pr h.stops h.stopInternals)
    (hse : p.pending = true ∨ controlServer = h.controlServer) :
    Ordered (LifeHost.setStart
      { h with startingPromise := pr, controlServer := controlServer } 0 p') := by
  have early := ho.course
  rw [hsi] at early
  refine ⟨?_, ho.web, ?_⟩
  · unfold LifeHost.setStart
    dsimp only
    rw [hsi]
    exact hc
  · intro q hi
    have hs := ho.staged q hi
    refine ⟨hs.waits, hs.silent, ?_, hs.unplugged, hs.clean⟩
    intro far
    rcases hse with pending | same
    · rw [early.pending_early pending q hi] at far
      cases far
    · exact same.trans (hs.unserved far)

theorem schedule_eq (h : LifeHost) : ∃ idleTimer : Bool,
    h.scheduleIdleTimeoutIfNeeded =
      { h with consumers := { h.consumers with idleTimer := idleTimer } } := by
  unfold scheduleIdleTimeoutIfNeeded
  split
  · exact ⟨h.consumers.idleTimer, rfl⟩
  · split
    · exact ⟨h.consumers.idleTimer, rfl⟩
    · exact ⟨true, rfl⟩

theorem Ordered.claimed (ho : h.Ordered) (hsi : h.starts = [.claiming]) :
    (h.becomeReady.setStart 0 .succeeded).Ordered := by
  have hc := ho.course
  rw [hsi] at hc
  unfold becomeReady
  rcases hc.unready_status rfl with ⟨hu, hk⟩ | closed
  · obtain ⟨none, x⟩ := ho.open_stops (by rw [hu]; nofun)
    rw [if_pos hu]
    obtain ⟨idleTimer, hs⟩ := schedule_eq { h with
      lifecycleStatus := .ready
      consumers := { h.consumers with wasReady := true } }
    rw [hs]
    unfold LifeHost.setStart
    refine ⟨?_, ho.web, ?_⟩
    · dsimp only
      rw [hsi, hk, none, x]
      exact .succeeded
    · dsimp only
      rw [none]
      nofun
  · rw [if_neg (by rw [closed]; nofun)]
    refine ho.setStart hsi ?_ (.inl rfl)
    rw [closed] at hc ⊢
    exact hc.outlast

theorem Ordered.rollBack (hord : h.Ordered) (hs : h.starts = [.failed]) : (h.rollBack 0).Ordered := by
  have hc := hord.course
  rw [hs] at hc
  unfold LifeHost.rollBack
  dsimp only
  split
  next closed =>
    refine hord.setStart hs ?_ (.inl rfl)
    rw [closed] at hc ⊢
    exact hc.retire rfl
  next ho =>
    obtain ⟨none, x⟩ := hord.open_stops ho
    have ha :=
      reached_afterStart (h := { h with startingPromise := .none, lifecycleStatus := .closed }) x
      hord.web
    have order := ha.ordered_of rfl rfl (.inr ⟨.rollingBack h.stops.length, rfl, rfl⟩)
    unfold LifeHost.setStart LifeHost.beginStop
    have starts := ha.starts
    dsimp only at starts ⊢
    rw [starts]
    simpa only [none, hs, List.nil_append, List.set_cons_zero] using order

theorem Ordered.advanceStart (ho : h.Ordered) (start : Nat) (ok : Bool) :
    (h.advanceStart start ok).Ordered := by
  unfold LifeHost.advanceStart
  split
  · exact ho
  all_goals
    rename_i hh
    obtain ⟨rfl, hs⟩ := ho.course.only_start hh
    have hc := ho.course
    rw [hs] at hc
  · split
    · exact ho.setStart hs (hc.progress rfl rfl) (.inl rfl)
    · exact ho.setStart hs (hc.progress rfl rfl) (.inl rfl)
  · split
    · exact ho.claimed hs
    · exact ho.setStart hs (hc.progress rfl rfl) (.inl rfl)
  · exact ho.setStart hs hc.settle (.inl rfl)
  · exact ho.rollBack hs
  · split
    · obtain ⟨hcl, hf⟩ := hc.failed_closed rfl nofun
      refine ho.setStart hs ?_ (.inr rfl)
      rw [hcl] at hc
      rw [hcl, hf]
      exact hc.retire rfl
    · exact ho
  · obtain ⟨hcl, hf⟩ := hc.failed_closed rfl nofun
    refine ho.setStart hs ?_ (.inr rfl)
    rw [hcl] at hc ⊢
    exact hc.retire rfl
  · exact ho

/- The other acts -/

theorem Ordered.setWeb (ho : h.Ordered) {web : WebSocketServing}
    (hso : web.Sound (0 < h.stopInternals))
    (hsa : h.lifecycleStatus = .closed → web.webSocketServerStarting = h.web.webSocketServerStarting ∨
      web.webSocketServerStarting = none) : Ordered { h with web := web } := by
  refine ⟨ho.course, hso, ?_⟩
  intro q hi
  have hs := ho.staged q hi
  obtain ⟨k, hh⟩ := List.mem_iff_getElem?.mp hi
  refine ⟨?_, hs.silent, hs.unserved, hs.unplugged, hs.clean⟩
  intro j hw i hk
  rcases hsa (ho.course.only_stop hh).2.2 with hu | none
  · exact hs.waits j hw i (hu.symm.trans hk)
  · exact absurd (none.symm.trans hk) nofun

theorem Ordered.setConsumers (ho : h.Ordered) {consumers : Consumers}
    (hq : h.lifecycleStatus = .closed → h.consumers.idleTimer = false → consumers.idleTimer = false) :
    Ordered { h with consumers := consumers } := by
  refine ⟨ho.course, ho.web, ?_⟩
  intro q hi
  have hs := ho.staged q hi
  obtain ⟨k, hh⟩ := List.mem_iff_getElem?.mp hi
  refine ⟨hs.waits, ?_, hs.unserved, hs.unplugged, hs.clean⟩
  intro he
  exact hq (ho.course.only_stop hh).2.2 (hs.silent he)

theorem Ordered.schedule (ho : h.Ordered) : h.scheduleIdleTimeoutIfNeeded.Ordered := by
  unfold scheduleIdleTimeoutIfNeeded
  split
  · exact ho
  next hr =>
    split
    · exact ho
    · refine ho.setConsumers ?_
      intro hc
      rw [hc] at hr
      exact absurd (.inl nofun) hr

variable (w : WebSocketServing)

theorem advance_starting (startup : Nat) (ok : Bool) :
    (w.advance startup ok).webSocketServerStarting = w.webSocketServerStarting ∨
      (w.advance startup ok).webSocketServerStarting = none := by
  unfold WebSocketServing.advance
  split <;> first | exact .inl rfl | exact .inr rfl | (split <;> exact .inl rfl)

theorem resume_starting (call : Nat) :
    (w.resume call).webSocketServerStarting = w.webSocketServerStarting := by
  unfold WebSocketServing.resume
  split
  · split <;> rfl
  · rfl

theorem Ordered.startWSServer (hor : h.Ordered) (ctrl : Nat) : (h.startWSServer ctrl).Ordered := by
  unfold LifeHost.startWSServer
  split
  · exact hor.setWeb (hor.web.addCall ctrl .thrown) fun _ => .inl rfl
  next ho =>
    have whole : ¬ 0 < h.stopInternals := by
      rw [(hor.open_stops ho).2]
      exact Nat.lt_irrefl 0
    exact hor.setWeb (hor.web.request whole ctrl) fun hc => absurd hc ho

theorem Ordered.served (ho : h.Ordered) (gid : Nat) (dev : String) :
    (h.served gid dev).Ordered := by
  unfold LifeHost.served
  split
  · exact ho
  next hp =>
    refine ⟨ho.course, ho.web, ?_⟩
    intro q hi
    have hs := ho.staged q hi
    refine ⟨hs.waits, hs.silent, hs.unserved, hs.unplugged, ?_⟩
    intro far
    exact absurd (hs.unplugged (Nat.le_of_succ_le far)) hp

theorem Ordered.step (hor : h.Ordered) (act : LifeAct) : (h.step act).Ordered := by
  cases act with
  | start => exact hor.start
  | advanceStart start ok => exact hor.advanceStart start ok
  | stop =>
    simp only [LifeHost.step, LifeHost.stop]
    split
    · exact hor
    next ho => exact hor.beginStop ho
  | advanceStop stop => exact hor.advanceStop stop
  | startWSServer controlId => exact hor.startWSServer controlId
  | advanceStartup su ok =>
    exact hor.setWeb (hor.web.advance su ok) fun _ => advance_starting h.web su ok
  | resumeCall call =>
    exact hor.setWeb (hor.web.resume call) fun _ => .inl (resume_starting h.web call)
  | controlConnected enableWebSocket =>
    have he := hor.web.enable (h.web.enableWebSocket || enableWebSocket)
    exact (hor.setWeb he fun _ => .inl rfl).setConsumers fun _ _ => rfl
  | controlDisconnected id =>
    apply Ordered.schedule
    refine Ordered.setConsumers (hor.setWeb (hor.web.forget id) fun _ => .inl rfl) ?_
    exact fun _ hq => hq
  | driverConnected id => exact hor.setConsumers fun _ _ => rfl
  | driverDisconnected id =>
    apply Ordered.schedule
    exact hor.setConsumers fun _ hq => hq
  | requestDaemonShutdown =>
    simp only [LifeHost.step, LifeHost.requestDaemonShutdown]
    split
    · exact hor
    · split
      · exact hor
      · exact hor.setConsumers fun _ _ => rfl
  | idleTimeout =>
    refine hor.setConsumers fun _ hq => ?_
    unfold Consumers.onIdleTimeout
    rw [hq]
    exact hq
  | served globalMessageId deviceId => exact hor.served globalMessageId deviceId

/- What it comes to -/

def Stopping (h : LifeHost) : Prop := ∃ q ∈ h.stops, 2 ≤ q.rank ∧ q ≠ .done

structure Lawful (h : LifeHost) : Prop where
  once : h.stopInternals ≤ 1
  alone : h.Stopping → (∀ p ∈ h.starts, p.running = false) ∧ ∀ p ∈ h.web.startups, p.underWay = false
  stopped : .done ∈ h.stops →
    h.controlServer = false ∧ h.web.webSocketController = none ∧ h.pendingRoutes = [] ∧
    h.watcherMarks = [] ∧ h.consumers.idleTimer = false
  started : h.web.webSocketServerStarted = true →
    h.web.webSocketServerInfo.isSome ∧ h.web.webSocketController.isSome
  /-- A controller without a started server belongs to a startup whose failure was not handled yet. -/
  owned : h.web.webSocketServerStarted = false → (∀ p ∈ h.web.startups, p.owns = false) →
    h.web.webSocketController = none
  shared : ∀ (i j : Nat) (p q : StartupPoint), h.web.startups[i]? = some p →
    h.web.startups[j]? = some q →
    p.underWay = true → q.underWay = true → i = j
  /-- Who is subscribed without a started server still waits for one. -/
  subscribed : ∀ c ∈ h.web.webSocketRequesterControlIds, h.web.webSocketServerStarted = true ∨
    ∃ startup, (⟨c, .waiting startup⟩ : WebSocketCall) ∈ h.web.calls

structure Obeys (h : LifeHost) (act : LifeAct) : Prop where
  /-- After a stop has completed. -/
  start_ignored : .done ∈ h.stops → act = .start → h.step act = h
  startWSServer_fails : .done ∈ h.stops → ∀ c, act = .startWSServer c →
    h.step act = { h with web := h.web.addCall c .thrown }
  /-- Requests while a startup is under way wait for that one. -/
  joins : ∀ c startup, act = .startWSServer c → h.lifecycleStatus ≠ .closed →
    h.web.enableWebSocket = true →
    h.web.webSocketServerStarted = false → h.web.webSocketServerStarting = some startup →
    (h.step act).web.startups = h.web.startups ∧
      (h.step act).web.calls = h.web.calls ++ [⟨c, .waiting startup⟩]
  /-- A call whose startup has failed unsubscribes. -/
  unsubscribes : ∀ call c startup, act = .resumeCall call →
    h.web.calls[call]? = some ⟨c, .waiting startup⟩ →
    h.web.startups[startup]? = some (.settled false) →
    (h.step act).web.calls[call]? = some ⟨c, .thrown⟩ ∧
      c ∉ (h.step act).web.webSocketRequesterControlIds

theorem Ordered.stops_of_done (ho : h.Ordered) (done : .done ∈ h.stops) :
    h.stops = [.done] ∧ h.lifecycleStatus = .closed := by
  obtain ⟨k, hh⟩ := List.mem_iff_getElem?.mp done
  exact (ho.course.only_stop hh).2

theorem Ordered.entered (ho : h.Ordered) (hi : q ∈ h.stops) (far : 2 ≤ q.rank) :
    0 < h.stopInternals ∧ ∀ p ∈ h.starts, p.pending = false := by
  obtain ⟨k, hh⟩ := List.mem_iff_getElem?.mp hi
  obtain ⟨-, hs, -⟩ := ho.course.only_stop hh
  have hco := ho.course
  rw [hs] at hco
  obtain ⟨-, hc, he⟩ := hco.stopping_of (Nat.le_of_succ_le far)
  rw [if_pos far] at hc
  refine ⟨by rw [hc]; exact Nat.one_pos, ?_⟩
  rcases he with none | ⟨p, only, hce⟩
  · rw [none]
    nofun
  · rw [only]
    intro p' hi
    rw [List.mem_singleton.mp hi]
    exact hce

theorem Ordered.lawful (ho : h.Ordered) : h.Lawful where
  once := ho.course.once
  alone := by
    rintro ⟨q, hi, far, -⟩
    obtain ⟨he, hc⟩ := ho.entered hi far
    constructor
    · intro p started
      have ended := hc p started
      cases p <;> first | rfl | cases ended
    · intro p started
      obtain ⟨j, hh⟩ := List.mem_iff_getElem?.mp started
      exact ho.web.all_settled (ho.web.dropped he).1 hh
  stopped := by
    intro done
    have hs := ho.staged .done done
    have he := (ho.entered done (by decide)).1
    exact ⟨hs.unserved (by decide), (ho.web.dropped he).2.1, (hs.clean (by decide)).1,
      (hs.clean (by decide)).2, hs.silent (by decide)⟩
  started := ho.web.full
  owned := ho.web.owned
  shared _ _ _ _ first second early late := ho.web.shared first second early late
  subscribed := ho.web.subscribed

theorem Ordered.obeys (hor : h.Ordered) (act : LifeAct) : h.Obeys act where
  start_ignored := by
    rintro done rfl
    simp only [LifeHost.step, LifeHost.start, if_pos (hor.stops_of_done done).2]
  startWSServer_fails := by
    rintro done c rfl
    simp only [LifeHost.step, LifeHost.startWSServer, if_pos (hor.stops_of_done done).2]
  joins := by
    rintro c su rfl ho he hu hs
    have hr : h.web.request c = WebSocketServing.addCall { h.web with
        webSocketRequesterControlIds := insertLast c h.web.webSocketRequesterControlIds } c
          (.waiting su) := by
      simp [WebSocketServing.request, he, hu, hs]
    simp only [LifeHost.step, LifeHost.startWSServer, if_neg ho, hr]
    exact ⟨rfl, rfl⟩
  unsubscribes := by
    rintro call c su rfl hw hf
    have hre : h.web.resume call =
        { h.web.forget c with calls := h.web.calls.set call ⟨c, .thrown⟩ } := by
      simp [WebSocketServing.resume, hw, hf]
    simp only [LifeHost.step, hre]
    constructor
    · rw [List.getElem?_set_self', hw]
      rfl
    · intro hi
      exact absurd rfl (of_decide_eq_true (List.mem_filter.mp hi).2)

theorem initial_ordered (opt : LifeOption) (ws : Bool) : (initial opt ws).Ordered := by
  refine ⟨.fresh, ?_, nofun⟩
  have sound := WebSocketServing.none_sound ws
  rw [← eq_false (Nat.lt_irrefl 0)] at sound
  exact sound

/-- Start and stop, whatever their awaited steps do and however the calls are interleaved. -/
theorem lifecycle_lawful (option : LifeOption) (enableWebSocket : Bool) (acts : List LifeAct) :
    Throughout step Lawful (initial option enableWebSocket) acts ∧
      Along step Obeys (initial option enableWebSocket) acts := by
  have ordered := initial_ordered option enableWebSocket
  have kept : ∀ (h : LifeHost) (act : LifeAct), h.Ordered → (h.step act).Ordered :=
    fun _ act ho => ho.step act
  constructor
  · exact throughout_mono (fun _ => Ordered.lawful) (throughout_of_invariant kept ordered acts)
  · exact along_of_invariant kept (fun _ act ho => ho.obeys act) ordered acts

end LifeHost

end DebugRouter.Daemon
