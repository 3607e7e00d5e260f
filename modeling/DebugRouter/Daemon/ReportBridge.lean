import DebugRouter.Library.Json
import DebugRouter.Library.Runs

/-!
`DaemonReportServiceBridge`. The send callback may call `updateStatus` and `close` before it returns
or throws, and `forwardReport` catches what it throws. What the bridge does is logged; a queue that
is replayed from the log says which reports were waiting at any moment.
-/
namespace DebugRouter.Daemon

open Library List

inductive ReportStatus where
  | disconnected
  | closed
  | forward (controlId : Nat)
  deriving DecidableEq

structure ReportEventData where
  eventName : String
  metrics : Json
  categories : Json
  deriving DecidableEq

structure Report where
  number : Nat
  data : ReportEventData
  deriving DecidableEq

inductive ReportEvent where
  | statusSet (status : ReportStatus)
  | queued (report : Report) (dropped : Option Report)
  | sent (controlId : Nat) (report : Report)
  | closed
  deriving DecidableEq

inductive BridgeCall where
  | updateStatus (status : ReportStatus)
  | close
  deriving DecidableEq

inductive BridgeAct where
  | report (eventName : String) (metrics categories : Option Json)
  | call (call : BridgeCall)

structure ReportBridge where
  status : ReportStatus
  queue : List Report
  draining : Bool
  made : Nat
  log : List ReportEvent

def MAX_REPORT_QUEUE_LENGTH : Nat := 100

namespace ReportBridge
variable (send : Nat → List BridgeCall) (b : ReportBridge)

def initial : ReportBridge := ⟨.disconnected, [], false, 0, []⟩

def close : ReportBridge := { b with status := .closed, queue := [], log := b.log ++ [.closed] }

def setStatus (status : ReportStatus) : ReportBridge :=
  if b.status = .closed then b else { b with status := status, log := b.log ++ [.statusSet status] }

/-- A call that the callback makes while `draining` is set, so that `drain` returns at once. -/
def reenter : BridgeCall → ReportBridge
  | .updateStatus status => b.setStatus status
  | .close => b.close

/-- The calls of the send callback are those of the moment, which the length of the log names. -/
def drainLoop : Nat → ReportBridge → ReportBridge
  | 0, b => b
  | fuel + 1, b =>
    match b.queue, b.status with
    | report :: rest, .forward controlId =>
      drainLoop fuel ((send b.log.length).foldl reenter
        { b with queue := rest, log := b.log ++ [.sent controlId report] })
    | _, _ => b

def drain : ReportBridge :=
  if b.draining then b
  else { drainLoop send b.queue.length { b with draining := true } with draining := false }

def updateStatus (status : ReportStatus) : ReportBridge :=
  if b.status = .closed then b else (b.setStatus status).drain send

def perform : BridgeCall → ReportBridge
  | .updateStatus status => b.updateStatus send status
  | .close => b.close

def report (eventName : String) (metrics categories : Option Json) : ReportBridge :=
  let report : Report := ⟨b.made, eventName, metrics.getD .null, categories.getD .null⟩
  let next := { b with made := b.made + 1 }
  match b.status with
  | .closed => b
  | .forward controlId =>
    (send b.log.length).foldl (perform send) { next with log := b.log ++ [.sent controlId report] }
  | .disconnected =>
    let full := MAX_REPORT_QUEUE_LENGTH ≤ b.queue.length
    { next with
      queue := (if full then b.queue.tail else b.queue) ++ [report]
      log := b.log ++ [.queued report (if full then b.queue.head? else none)] }

def step : BridgeAct → ReportBridge
  | .report eventName metrics categories => b.report send eventName metrics categories
  | .call call => b.perform send call

end ReportBridge

/- The queue that a log tells of -/

namespace ReportEvent

def replay (state : ReportStatus × List Report) : ReportEvent → ReportStatus × List Report
  | .statusSet status => (status, state.2)
  | .queued report dropped =>
    (state.1, (if dropped.isSome then state.2.tail else state.2) ++ [report])
  | .sent _ report => (state.1, if state.2.head? = some report then state.2.tail else state.2)
  | .closed => (.closed, [])

/-- Only the oldest of a full queue is dropped, a report goes to the control of the moment, and
after `close` there is nothing but another `close`. -/
def Permitted (state : ReportStatus × List Report) : ReportEvent → Prop
  | .statusSet _ => state.1 ≠ .closed
  | .queued _ dropped => state.1 = .disconnected ∧
      dropped = if state.2.length = MAX_REPORT_QUEUE_LENGTH then state.2.head? else none
  | .sent controlId report =>
    state.1 = .forward controlId ∧ (state.2.head? = some report ∨ state.2 = [])
  | .closed => True

def sentNumber : ReportEvent → Option Nat
  | .sent _ report => some report.number
  | _ => none

def takesUp : ReportEvent → Option Nat
  | .sent _ report | .queued report _ => some report.number
  | _ => none

end ReportEvent

namespace ReportBridge
open ReportEvent
variable {send : Nat → List BridgeCall} {b b' : ReportBridge}

/-- The log is permitted and tells the queue; what was sent and what waits is in the order in which
it was made. -/
structure Sound (b : ReportBridge) : Prop where
  permitted : Along replay Permitted (.disconnected, []) b.log
  told : b.log.foldl replay (.disconnected, []) = (b.status, b.queue)
  bounded : b.queue.length ≤ MAX_REPORT_QUEUE_LENGTH
  ordered : (b.log.filterMap sentNumber ++ b.queue.map Report.number).Pairwise (· < ·)
  below : ∀ n ∈ b.log.filterMap sentNumber ++ b.queue.map Report.number, n < b.made
  taken : ∀ n < b.made, ∃ event ∈ b.log, takesUp event = some n

theorem Sound.emit (hso : b.Sound) {ev : ReportEvent} (log : b'.log = b.log ++ [ev])
    (permitted : Permitted (b.status, b.queue) ev)
    (told : replay (b.status, b.queue) ev = (b'.status, b'.queue))
    (bounded : b'.queue.length ≤ MAX_REPORT_QUEUE_LENGTH)
    (hnu : (b'.log.filterMap sentNumber ++ b'.queue.map Report.number).Sublist
      (b.log.filterMap sentNumber ++ b.queue.map Report.number ++ range' b.made (b'.made - b.made)))
    (hm : b'.made = b.made ∨ b'.made = b.made + 1 ∧ takesUp ev = some b.made) : b'.Sound where
  permitted := by
    rw [log, along_append, hso.told]
    exact ⟨hso.permitted, permitted, trivial⟩
  told := by rw [log, foldl_append, hso.told, foldl_cons, foldl_nil, told]
  bounded := bounded
  ordered := by
    refine List.Pairwise.sublist hnu (pairwise_append.mpr ⟨hso.ordered, pairwise_lt_range', ?_⟩)
    intro n hi m hl
    exact (hso.below n hi).trans_le (mem_range'_1.mp hl).1
  below := by
    intro n hi
    rcases mem_append.mp (hnu.subset hi) with old | new
    · have bound := hso.below n old
      omega
    · have bound := (mem_range'_1.mp new).2
      omega
  taken := by
    intro n below
    rw [log]
    by_cases old : n < b.made
    · obtain ⟨event', hi, hs⟩ := hso.taken n old
      exact ⟨event', mem_append_left _ hi, hs⟩
    · rcases hm with hs | ⟨one, ht⟩
      · exact absurd (hs ▸ below) old
      · have newest : n = b.made := by omega
        exact ⟨ev, mem_append_right _ mem_cons_self, newest ▸ ht⟩

theorem Sound.close (h : b.Sound) : b.close.Sound := by
  refine h.emit rfl trivial rfl (Nat.zero_le _) ?_ (.inl rfl)
  simp [ReportBridge.close, sentNumber]

theorem Sound.setStatus (h : b.Sound) (st : ReportStatus) : (b.setStatus st).Sound := by
  unfold ReportBridge.setStatus
  split
  · exact h
  next ho =>
    refine h.emit rfl ho rfl h.bounded ?_ (.inl rfl)
    simp [sentNumber]

theorem Sound.reenter (h : b.Sound) (c : BridgeCall) : (b.reenter c).Sound := by
  cases c with
  | updateStatus st => exact h.setStatus st
  | close => exact h.close

theorem length_reenter (calls : List BridgeCall) (b : ReportBridge) :
    (calls.foldl reenter b).queue.length ≤ b.queue.length := by
  induction calls generalizing b with
  | nil => exact le_rfl
  | cons c xs ih =>
    refine (ih _).trans ?_
    cases c with
    | updateStatus st =>
      simp only [reenter, setStatus]
      split <;> exact le_rfl
    | close => exact Nat.zero_le _

/-- The loop has really ended when its fuel has. -/
theorem drainLoop_spec (fuel : Nat) (hso : b.Sound) (hen : b.queue.length ≤ fuel) :
    (drainLoop send fuel b).Sound ∧
      ((drainLoop send fuel b).queue = [] ∨
        ∀ ctrl, (drainLoop send fuel b).status ≠ .forward ctrl) := by
  induction fuel generalizing b with
  | zero => exact ⟨hso, .inl (eq_nil_of_length_eq_zero (Nat.le_zero.mp hen))⟩
  | succ fuel ih =>
    unfold drainLoop
    split
    next report xs ctrl queue st =>
      have hs : ({ b with queue := xs, log := b.log ++ [.sent ctrl report] } :
          ReportBridge).Sound := by
        have below := hso.bounded
        rw [queue, length_cons] at below
        refine hso.emit rfl ⟨st, .inl (by rw [queue]; rfl)⟩ ?_ (Nat.le_of_succ_le below) ?_ (.inl rfl)
        · simp [ReportEvent.replay, queue]
        · simp [queue, sentNumber]
      refine ih (invariant_foldl (fun _ c hso => hso.reenter c) hs _) ((length_reenter _ _).trans ?_)
      rw [queue, length_cons] at hen
      exact Nat.le_of_succ_le_succ hen
    next he =>
      refine ⟨hso, ?_⟩
      cases queue : b.queue with
      | nil => exact .inl rfl
      | cons report xs => exact .inr fun ctrl st => he report xs ctrl queue st

theorem head_of_full {queue : List Report} (h : MAX_REPORT_QUEUE_LENGTH ≤ queue.length) :
    queue.head?.isSome = true := by
  cases queue with
  | nil => exact absurd h (by decide)
  | cons report xs => rfl

/-- Between two calls nothing waits while there is a control to send to. -/
structure Calm (b : ReportBridge) : Prop where
  sound : b.Sound
  idle : b.draining = false
  empty : b.queue = [] ∨ ∀ controlId, b.status ≠ .forward controlId

theorem Calm.perform (h : b.Calm) (c : BridgeCall) : (b.perform send c).Calm := by
  cases c with
  | close => exact ⟨h.sound.close, h.idle, .inl rfl⟩
  | updateStatus st =>
    have hi : (b.setStatus st).draining = false := by
      unfold setStatus
      split <;> exact h.idle
    simp only [ReportBridge.perform, updateStatus, drain, hi, Bool.false_eq_true, if_false]
    split
    · exact h
    · have hs : ({ b.setStatus st with draining := true } : ReportBridge).Sound := by
        obtain ⟨hp, hto, hbo, ho, hb, ht⟩ := h.sound.setStatus st
        exact ⟨hp, hto, hbo, ho, hb, ht⟩
      obtain ⟨hd, he⟩ := drainLoop_spec _ hs le_rfl
      obtain ⟨hp, hto, hbo, ho, hb, ht⟩ := hd
      exact ⟨⟨hp, hto, hbo, ho, hb, ht⟩, rfl, he⟩

theorem Calm.report (h : b.Calm) (eventName : String) (metrics categories : Option Json) :
    (b.report send eventName metrics categories).Calm := by
  unfold ReportBridge.report
  dsimp only
  split
  · exact h
  next ctrl hs =>
    have nothing : b.queue = [] := h.empty.resolve_right fun ho => ho ctrl hs
    refine invariant_foldl (fun _ c h => h.perform c) ⟨?_, h.idle, .inl nothing⟩ _
    refine h.sound.emit rfl ⟨hs, .inr nothing⟩ ?_ h.sound.bounded ?_ (.inr ⟨rfl, rfl⟩)
    · simp [ReportEvent.replay, nothing, hs]
    · simp [nothing, sentNumber]
  next hs =>
    have below := h.sound.bounded
    refine ⟨h.sound.emit rfl ⟨hs, ?_⟩ ?_ ?_ ?_ (.inr ⟨rfl, rfl⟩), h.idle, .inr fun ctrl ho => ?_⟩
    · exact if_congr ⟨below.antisymm, Eq.ge⟩ rfl rfl
    · by_cases hf : MAX_REPORT_QUEUE_LENGTH ≤ b.queue.length
      · simp [ReportEvent.replay, hf, head_of_full hf]
      · simp [ReportEvent.replay, hf]
    · by_cases hf : MAX_REPORT_QUEUE_LENGTH ≤ b.queue.length
      · have above : 0 < MAX_REPORT_QUEUE_LENGTH := by decide
        simp only [hf, if_true, length_append, length_tail, length_singleton]
        omega
      · simp only [hf, if_false, length_append, length_singleton]
        omega
    · simp only [filterMap_append, filterMap_cons, sentNumber, filterMap_nil, append_nil,
        map_append, map_cons, map_nil, Nat.add_sub_cancel_left, range'_one, append_assoc]
      refine List.Sublist.append_left (List.Sublist.append_right (List.Sublist.map _ ?_) _) _
      split
      · exact tail_sublist _
      · exact List.Sublist.refl _
    · cases hs.symm.trans ho

theorem calm_run (acts : List BridgeAct) : (acts.foldl (step send) initial).Calm := by
  refine invariant_foldl (fun b act hc => ?_)
    ⟨⟨trivial, rfl, Nat.zero_le _, .nil, nofun, nofun⟩, rfl, .inl rfl⟩ acts
  cases act with
  | report eventName metrics categories => exact hc.report eventName metrics categories
  | call c => exact hc.perform c

/- What the log tells -/

theorem bounded_replay (state : ReportStatus × List Report) (ev : ReportEvent)
    (hb : state.2.length ≤ MAX_REPORT_QUEUE_LENGTH) (hp : Permitted state ev) :
    (replay state ev).2.length ≤ MAX_REPORT_QUEUE_LENGTH := by
  cases ev with
  | statusSet st => exact hb
  | queued report dropped =>
    obtain ⟨-, rfl⟩ := hp
    by_cases hf : state.2.length = MAX_REPORT_QUEUE_LENGTH
    · simp only [ReportEvent.replay, hf, if_true, head_of_full hf.ge, length_append, length_tail,
        length_singleton]
      decide
    · simp only [ReportEvent.replay, hf, if_false, Option.isSome_none, Bool.false_eq_true,
        length_append, length_singleton]
      omega
  | sent ctrl report =>
    simp only [ReportEvent.replay]
    split
    · exact (length_tail ▸ Nat.sub_le ..).trans hb
    · exact hb
  | closed => exact Nat.zero_le _

theorem only_closed {state : ReportStatus × List Report} (closed : state.1 = .closed)
    {log : List ReportEvent}
    (hp : Along replay Permitted state log) : ∀ ev ∈ log, ev = .closed := by
  induction log generalizing state with
  | nil => nofun
  | cons ev xs ih =>
    obtain ⟨x, hl⟩ := hp
    have same : ev = .closed := by
      cases ev with
      | statusSet st => exact absurd closed x
      | queued report dropped | sent ctrl report => cases closed.symm.trans x.1
      | closed => rfl
    subst same
    exact forall_mem_cons.mpr ⟨rfl, ih rfl hl⟩

theorem report_bridge_in_order (send : Nat → List BridgeCall) (acts : List BridgeAct) :
    let b := acts.foldl (step send) initial
    (b.log.filterMap sentNumber).Pairwise (· < ·) ∧
      (∀ n < b.made, ∃ event ∈ b.log, takesUp event = some n) ∧
      Along replay Permitted (.disconnected, []) b.log ∧
      Throughout replay (fun state => state.2.length ≤ MAX_REPORT_QUEUE_LENGTH)
        (.disconnected, []) b.log ∧
      b.log.foldl replay (.disconnected, []) = (b.status, b.queue) ∧
      ∀ before after, b.log = before ++ .closed :: after → ∀ event ∈ after, event = .closed := by
  intro b
  have hs : b.Sound := (calm_run acts).sound
  refine ⟨(pairwise_append.mp hs.ordered).1, hs.taken, hs.permitted, ?_, hs.told, ?_⟩
  · exact throughout_of_along bounded_replay (Nat.zero_le _) hs.permitted
  · intro before after split
    have hp := hs.permitted
    rw [split, along_append] at hp
    exact only_closed rfl hp.2.2

end ReportBridge

end DebugRouter.Daemon
