import DebugRouter.Library.Alternation
import DebugRouter.Native.System

/-!
What the state listeners hear of USB sessions. On the executor the slots of the server, the core
and the listeners move together. `DisableDebugChannel` stores DISCONNECTED from its own thread,
and an `OnClosed` that finds DISCONNECTED tells nobody.
-/
namespace DebugRouter.Native

open Library List Native.System UsbServer Core

def ListenerEvent.opens : ListenerEvent → Bool
  | onOpen _ => true
  | onClose _ _ | onError _ => false

def Act.usbOnly : Act → Bool
  | .setConfig _ | .call _ | .advance _ | .take | .work | .accept | .usbClient _ => true
  | .connect _ _ | .connectAsync _ _ | .disconnect | .disconnectAsync | .send _
  | .webSocketWorker _ | .webSocketTask _ | .webSocketThrow => false

def Act.performs (b : Switchboard Task) : Act → Option CallPoint
  | .advance i => b.calls[i]?
  | _ => none

namespace Core
variable {c : Core}

theorem onOpen_usb_of_disconnected (h : c.connectionState = .disconnected) :
    c.onOpen .usb = (c.opened .usb,
      [.notifyConnectState .connected, c.openReport .usb, .listener (.onOpen .usb)]) := by
  simp [onOpen, h]

theorem onClosed_usb_of_connected (hs : c.connectionState = .connected)
    (hc : c.currentTransceiver = some .usb) :
    c.onClosed .usb = ({ c with connectionState := .disconnected, currentTransceiver := none },
      [.notifyConnectState .disconnected, .listener (.onClose (-1) "unknown reason")]) := by
  simp [onClosed, hs, hc, tellsEnd]

theorem onFailure_usb_of_connected (hs : c.connectionState = .connected)
    (hc : c.currentTransceiver = some .usb) (msg : String) (code : Int) :
    c.onFailure .usb msg code = (c.failed, [c.failureReport msg code,
      .notifyConnectState .disconnected, .listener (.onError msg)]) := by
  simp [onFailure, hs, hc, tellsEnd]

end Core

namespace System
variable {s : System}

def Open (s : System) : Prop :=
  s.core.connectionState = .connected ∧ s.core.currentTransceiver = some .usb ∧
    s.usbServer.usbClient ≠ none

def Closed (s : System) : Prop :=
  s.core.connectionState = .disconnected ∧ s.core.currentTransceiver = none ∧
    s.usbServer.usbClient = none

def Told (s : System) : Prop :=
  Alternates (s.heard.map ListenerEvent.opens) ∧ .onOpen .webSocket ∉ s.heard ∧
    latest (s.heard.map ListenerEvent.opens) = decide (s.core.connectionState = .connected)

structure Linked (s : System) : Prop where
  link : s.Open ∨ s.Closed
  told : s.Told
  queue : ∀ task, .other task ∈ s.board.queue → ∃ usb, task = .usb usb ∧ usb.client? ≠ none
  stopped : s.usbServer.running = false →
    s.usbServer.usbClient = none ∧ s.usbServer.tempUsbClient = none
  applying : s.board.task = some (.applyServers false) → s.Closed

variable {s' : System} {a : Act}

theorem Told.hears (ht : s.Told) (ev : ListenerEvent)
    (hk : ev ≠ .onOpen .webSocket) (hh : s'.heard = s.heard ++ [ev])
    (hb : decide (s.core.connectionState = .connected) = !ev.opens)
    (haf : decide (s'.core.connectionState = .connected) = ev.opens) : s'.Told := by
  obtain ⟨ha, hap, hl⟩ := ht
  refine ⟨?_, ?_, ?_⟩
  · rw [hh, map_append]
    exact alternates_append ha (hl.trans hb)
  · rw [hh, mem_append, not_or]
    exact ⟨hap, by simpa [eq_comm] using hk⟩
  · rw [hh, map_append, haf]
    exact latest_append _ _

theorem Told.same (ht : s.Told) (hh : s'.heard = s.heard)
    (hs : s'.core.connectionState = s.core.connectionState) : s'.Told := by
  unfold Told
  rw [hh, hs]
  exact ht

section Handle
variable (s : System) {c : Core}

theorem handle_onOpen_usb (h : c.connectionState = .disconnected) : s.handle true (c.onOpen .usb) =
      { s with core := c.opened .usb, heard := s.heard ++ [.onOpen .usb] } := by
  rw [onOpen_usb_of_disconnected h]
  rfl

theorem handle_onOpen_usb_again (hc : c.connectionState = .connected)
    (hcu : c.currentTransceiver = some .usb) :
    s.handle true (c.onOpen .usb) = { s with core := c } := by
  simp [onOpen, hc, hcu, handle]

theorem handle_onClosed_usb (hc : c.connectionState = .connected)
    (hcu : c.currentTransceiver = some .usb) :
    s.handle true (c.onClosed .usb) = { s with
        core := { c with connectionState := .disconnected, currentTransceiver := none }
        heard := s.heard ++ [.onClose (-1) "unknown reason"] } := by
  rw [onClosed_usb_of_connected hc hcu]
  rfl

theorem handle_onFailure_usb (hc : c.connectionState = .connected)
    (hcu : c.currentTransceiver = some .usb) (msg : String) (code : Int) :
    s.handle true (c.onFailure .usb msg code) =
      { s with core := c.failed, heard := s.heard ++ [.onError msg] } := by
  rw [onFailure_usb_of_connected hc hcu]
  rfl

end Handle

/- The tasks of the USB server -/

/-- The parts of the invariant a USB task has to keep: the rest is not touched by it. -/
structure Reported (s s' : System) : Prop where
  link : s'.Open ∨ s'.Closed
  told : s'.Told
  board : s'.board = s.board
  running : s'.usbServer.running = s.usbServer.running
  temp : s.usbServer.tempUsbClient = none → s'.usbServer.tempUsbClient = none
  promoted : s.usbServer.tempUsbClient = none → s.usbServer.usbClient = none →
    s'.usbServer.usbClient = none

theorem reported_onOpen (hl : s.Open ∨ s.Closed) (ht : s.Told) (cl : ClientId) (code : Int)
    (reason : String) : s.Reported (s.runTask (.usb (.onOpen cl code reason))) := by
  simp only [runTask, run, handleOnOpenStatus]
  split
  next hp =>
    simp only [foldl_cons, foldl_nil, notify]
    rcases hl with ⟨hc, hcu, -⟩ | ⟨hd, -, -⟩
    · rw [handle_onOpen_usb_again _ hc hcu]
      exact ⟨.inl ⟨hc, hcu, by simp⟩, ht, rfl, rfl, by simp [hp], by simp [hp]⟩
    · rw [handle_onOpen_usb _ hd]
      refine ⟨.inl ⟨rfl, rfl, by simp⟩, ?_, rfl, rfl, by simp [hp], by simp [hp]⟩
      apply ht.hears (.onOpen .usb) (by simp) rfl
      · simp [hd, ListenerEvent.opens]
      · simp [opened, ListenerEvent.opens]
  · exact ⟨hl, ht, rfl, rfl, id, fun _ => id⟩

theorem reported_end (hl : s.Open ∨ s.Closed) (ht : s.Told) (cl : ClientId)
    {st : ConnectionStatus} (he : st ≠ .connected) (code : Int) (reason : String) :
    s.Reported ((s.usbServer.handleEnd cl st code reason).notices.foldl notify
      { s with usbServer := (s.usbServer.handleEnd cl st code reason).server }) := by
  rw [handleEnd_notices, handleEnd_server]
  by_cases hp : s.usbServer.usbClient = some cl
  · have ⟨connected, hc, _⟩ : s.Open := hl.resolve_right fun hcl => by simp [hcl.2.2] at hp
    simp only [hp, if_true, foldl_cons, foldl_nil]
    cases st with
    | connected => exact absurd rfl he
    | disconnected =>
      simp only [notify]
      rw [handle_onClosed_usb _ connected hc]
      refine ⟨.inr ⟨rfl, rfl, rfl⟩, ?_, rfl, rfl, ?_, fun _ _ => rfl⟩
      · apply ht.hears (.onClose (-1) "unknown reason") (by simp) rfl <;>
          simp [connected, ListenerEvent.opens]
      · intro ha
        simp [ha]
    | error =>
      simp only [notify]
      rw [handle_onFailure_usb _ connected hc]
      refine ⟨.inr ⟨rfl, rfl, rfl⟩, ?_, rfl, rfl, ?_, fun _ _ => rfl⟩
      · apply ht.hears (.onError reason) (by simp) rfl <;>
          simp [connected, ListenerEvent.opens, failed]
      · intro ha
        simp [ha]
  · simp only [hp, if_false, foldl_nil]
    refine ⟨hl, ht, rfl, rfl, ?_, fun _ => id⟩
    intro ha
    simp [ha]

theorem reported_usbTask (hl : s.Open ∨ s.Closed) (ht : s.Told) {task : UsbTask}
    (hp : task.client? ≠ none) : s.Reported (s.runTask (.usb task)) := by
  cases task with
  | onOpen cl code reason => exact reported_onOpen hl ht cl code reason
  | onMessage cl msg =>
    simp only [runTask, run, handleOnMessageStatus]
    split <;> exact ⟨hl, ht, rfl, rfl, id, fun _ => id⟩
  | onClose cl code reason => exact reported_end hl ht cl (by simp) code reason
  | onError cl code msg => exact reported_end hl ht cl (by simp) code msg
  | disconnect => exact absurd rfl hp

/- Steps -/

/-- A call of `DisableDebugChannel` stores DISCONNECTED over an open connection. -/
def StoresOverOpen (s : System) (a : Act) : Prop :=
  a.performs s.board = some .storeDisconnected ∧ s.core.connectionState = .connected

instance (s : System) (a : Act) : Decidable (s.StoresOverOpen a) :=
  inferInstanceAs (Decidable (_ ∧ _))

theorem Linked.moved (hl : s.Linked) (hco : s'.core = s.core)
    (hh : s'.heard = s.heard) (hu : s'.usbServer = s.usbServer)
    (queue : ∀ task, .other task ∈ s'.board.queue → .other task ∈ s.board.queue)
    (applying : s'.board.task = some (.applyServers false) → s.Closed) : s'.Linked := by
  have hc : s.Closed → s'.Closed := by
    unfold Closed
    rw [hco, hu]
    exact id
  constructor
  case told => exact hl.told.same hh (by rw [hco])
  case queue => exact fun task hq => hl.queue task (queue task hq)
  case applying => exact fun ha => hc (applying ha)
  · apply hl.link.imp ?_ hc
    unfold Open
    rw [hco, hu]
    exact id
  · rw [hu]
    exact hl.stopped

theorem Linked.take (h : s.Linked) : s.take.Linked := by
  unfold System.take
  split
  next task xs hre hw =>
    have queued : .other task ∈ s.board.queue := by simp [hw]
    obtain ⟨usb, rfl, hc⟩ := h.queue task queued
    have hr := reported_usbTask (s := { s with board := s.board.take }) h.link h.told hc
    refine ⟨hr.link, hr.told, ?_, ?_, ?_⟩
    · intro o hl
      rw [hr.board] at hl
      exact h.queue o (s.board.mem_take_queue hl)
    · intro hs
      rw [hr.running] at hs
      obtain ⟨none, hab⟩ := h.stopped hs
      exact ⟨hr.promoted hab none, hr.temp hab⟩
    · intro ha
      rw [hr.board] at ha
      simp [Switchboard.take, hre, hw] at ha
  · refine h.moved rfl rfl rfl (fun _ hl => s.board.mem_take_queue hl) ?_
    intro ha
    rcases s.board.take_task with hsa | begun
    · exact h.applying (hsa ▸ ha)
    · simp [begun] at ha

theorem Linked.advance (hl : s.Linked) {i : Nat} (hcl : ¬ s.StoresOverOpen (.advance i)) :
    (s.advance i).Linked := by
  have hco : (s.advance i).core = s.core := by
    simp only [System.advance]
    split
    next hs =>
      have hd : s.core.connectionState = .disconnected := by
        rcases hl.link with ⟨hc, -⟩ | ⟨hd, -⟩
        · exact absurd ⟨hs, hc⟩ hcl
        · exact hd
      rw [← hd]
    · rfl
  refine hl.moved hco rfl rfl ?_ ?_
  · intro task hq
    obtain ⟨posted, hqu, hu⟩ := s.board.advance_queue i (s.core.currentTransceiver = some .usb)
    simp only [System.advance, hqu, List.mem_append] at hq
    refine hq.resolve_right fun new => ?_
    cases hu _ new
  · intro ha
    simp only [System.advance, Switchboard.advance_task] at ha
    exact hl.applying ha

theorem Linked.worked (hl : s'.Linked)
    (hc : s'.board.task = some (.closeUsb false) → s'.Closed) :
    Linked { s' with board := s'.board.work } := by
  refine hl.moved rfl rfl rfl ?_ fun ha => hc (s'.board.work_applies ha)
  intro task hq
  rwa [Switchboard.work_queue] at hq

theorem Linked.work (h : s.Linked) : s.work.Linked := by
  unfold System.work
  split
  · exact h
  next pt hh =>
    dsimp only
    unfold serve
    split
    · -- the block that closes the current USB transport
      split
      next hcu =>
        obtain ⟨hco, -, -⟩ : s.Open := h.link.resolve_right fun hc => by simp [hc.2.1] at hcu
        rw [handle_onClosed_usb _ hco hcu]
        have hc : Closed (perform true { s with
            core := { s.core with connectionState := .disconnected, currentTransceiver := none }
            heard := s.heard ++ [.onClose (-1) "unknown reason"] } (.transceiverDisconnect .usb)) :=
          ⟨rfl, rfl, rfl⟩
        refine Linked.worked ⟨.inr hc, ?_, h.queue, ?_, fun _ => hc⟩ fun _ => hc
        · apply h.told.hears (.onClose (-1) "unknown reason") (by simp) rfl <;>
            simp [hco, ListenerEvent.opens, perform]
        · intro hs
          obtain ⟨none, ha⟩ := h.stopped hs
          simp [perform, UsbServer.disconnect, none, ha]
      next hot =>
        have hc : s.Closed := h.link.resolve_left fun ho => hot ho.2.1
        exact h.worked fun _ => hc
    · -- `StartServer`
      refine Linked.worked ⟨h.link, h.told, h.queue, ?_, ?_⟩ ?_
      · simp [UsbServer.startServer]
      · simp [hh]
      · simp [hh]
    · -- `StopServer`
      obtain ⟨disconnected, hcl, -⟩ := h.applying hh
      refine Linked.worked ⟨.inr ⟨disconnected, hcl, rfl⟩, h.told, h.queue,
        fun _ => ⟨rfl, rfl⟩, fun _ => ⟨disconnected, hcl, rfl⟩⟩ fun _ => ⟨disconnected, hcl, rfl⟩
    next hn _ _ =>
      refine h.worked fun hhc => ?_
      rw [hh] at hhc
      exact absurd (Option.some.inj hhc) hn

theorem Linked.usbClient (h : s.Linked) (task : UsbTask) : (s.step (.usbClient task)).Linked := by
  simp only [step]
  split
  next cl hp =>
    split
    · refine ⟨h.link, h.told, ?_, h.stopped, h.applying⟩
      intro o hq
      simp only [post, Switchboard.post, mem_append, mem_singleton, Posted.other.injEq]
        at hq
      rcases hq with he | rfl
      · exact h.queue o he
      · exact ⟨task, rfl, by simp [hp]⟩
    · exact h
  · exact h

theorem Linked.step (hl : s.Linked) (hu : a.usbOnly = true)
    (hc : ¬ s.StoresOverOpen a) : (s.step a).Linked := by
  cases a with
  | advance i => exact hl.advance hc
  | take => exact hl.take
  | work => exact hl.work
  | usbClient task => exact hl.usbClient task
  | call switch => exact hl.moved rfl rfl rfl (fun _ => id) hl.applying
  | setConfig v => exact ⟨hl.link, hl.told, hl.queue, hl.stopped, hl.applying⟩
  | accept =>
    simp only [step]
    split
    next hr =>
      refine ⟨hl.link, hl.told, hl.queue, ?_, hl.applying⟩
      intro hs
      simp [accept, hr] at hs
    · exact hl
  | connect | connectAsync | disconnect | disconnectAsync | send | webSocketWorker | webSocketTask
  | webSocketThrow =>
    cases hu

theorem linked_initial : initial.Linked := by
  constructor
  case link => exact .inr ⟨rfl, rfl, rfl⟩
  case told => exact ⟨alternates_nil, by simp [initial], rfl⟩
  case queue => intro task hq; cases hq
  case stopped => exact fun _ => ⟨rfl, rfl⟩
  case applying => intro applying; cases applying

/- Sessions -/

/-- Sessions open with `OnOpen(kUsb)` and end with `OnClose` or `OnError`, in turn; the last event
is an `OnOpen` exactly in state CONNECTED; a stopped server is nobody's current transceiver. -/
def HearsSessions (s : System) : Prop :=
  Alternates (s.heard.map ListenerEvent.opens) ∧ .onOpen .webSocket ∉ s.heard ∧
    (s.heard.getLast? = some (.onOpen .usb) ↔ s.core.connectionState = .connected) ∧
    (s.usbServer.running = false → s.core.currentTransceiver = none)

theorem latest_opens_iff {heard : List ListenerEvent} (h : .onOpen .webSocket ∉ heard) :
    latest (heard.map ListenerEvent.opens) = true ↔ heard.getLast? = some (.onOpen .usb) := by
  rcases heard.eq_nil_or_concat with rfl | ⟨pre, ev, rfl⟩
  · simp
  · rw [concat_eq_append, map_append, map_singleton, latest_append, getLast?_concat]
    rcases ev with ⟨_ | _⟩ | _ | _ <;> simp_all [ListenerEvent.opens]

theorem Linked.hearsSessions (h : s.Linked) : s.HearsSessions := by
  obtain ⟨hal, ha, hl⟩ := h.told
  refine ⟨hal, ha, ?_, ?_⟩
  · rw [← latest_opens_iff ha, hl, decide_eq_true_iff]
  · intro hs
    rcases h.link with ⟨-, -, hp⟩ | ⟨-, hc, -⟩
    · exact absurd (h.stopped hs).1 hp
    · exact hc

theorem StoresOverOpen.misleads (hsto : s.StoresOverOpen a) (hh : s.HearsSessions) :
    ¬ (s.step a).HearsSessions := by
  obtain ⟨hp, hc⟩ := hsto
  have last := hh.2.2.1.mpr hc
  cases a with
  | advance i =>
    have store : s.board.calls[i]? = some .storeDisconnected := hp
    intro ha
    have state := ha.2.2.1.mp last
    simp [step, advance, store] at state
  | connect | connectAsync | disconnect | disconnectAsync | send | setConfig | call | take | work
  | webSocketWorker | webSocketTask | webSocketThrow | accept | usbClient => cases hp

theorem listeners_hear_sessions_iff (acts : List Act) (usbOnly : ∀ a ∈ acts, a.usbOnly = true) :
    Throughout step HearsSessions initial acts ↔
      Along step (fun s a => ¬ s.StoresOverOpen a) initial acts := by
  constructor
  · apply along_of_throughout
    intro s a hb ha hs
    exact hs.misleads hb ha
  · intro hc
    have hl : Throughout step Linked initial acts := by
      apply throughout_of_along _ linked_initial (along_and usbOnly hc)
      rintro s a hl ⟨usb, hc⟩
      exact hl.step usb hc
    exact throughout_mono (fun _ => Linked.hearsSessions) hl

/-- `EnableDebugChannel` up to its return, and the update task it posted. -/
def enableServer : List Act :=
  .call .enableDebugChannel :: replicate 4 (.advance 0) ++ .take :: replicate 9 .work

def plugIn : List Act := [.accept, .usbClient (.onOpen 0 0 "Init Success!"), .take]

def plugOut : List Act := [.usbClient (.onClose 0 (-1) "unknown reason"), .take]

theorem session_heard : Throughout step HearsSessions initial (enableServer ++ plugIn ++ plugOut ++
      Act.call .disableDebugChannel :: replicate 6 (.advance 0) ++ .take :: replicate 9 .work) :=
  (listeners_hear_sessions_iff _ (by decide)).mpr (by decide +kernel)

/-- The same with the client still connected. The close of the update task finds DISCONNECTED, and
so does the close of the client. -/
theorem disable_unheard :
    let s := (enableServer ++ plugIn ++ Act.call .disableDebugChannel :: replicate 7 (.advance 0) ++
      Act.take :: replicate 9 .work ++ plugOut).foldl step initial
    s.board.calls = [] ∧ s.board.queue = [] ∧ s.board.task = none ∧
      s.heard = [.onOpen .usb] ∧ s.core.connectionState = .disconnected ∧
      s.usbServer.running = false ∧ s.core.currentTransceiver = some .usb := by
  decide +kernel

end System

end DebugRouter.Native
