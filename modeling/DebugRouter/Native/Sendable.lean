import DebugRouter.Native.System

/-!
`Send`, and with it `SendData`, `Plug` and `Pull`, goes through `current_transceiver_` whenever the
state is CONNECTED. Every handler keeps the two together but `Disconnect`, which clears the pointer
and leaves the state.
-/
namespace DebugRouter.Native

open Library Core

namespace Core
variable {c : Core}

def Sendable (c : Core) : Prop := c.connectionState = .connected → c.currentTransceiver ≠ none

theorem send_isSome (c : Core) (msg : String) : (c.send msg).isSome ↔ c.Sendable := by
  unfold send Sendable
  split
  next hc => cases c.currentTransceiver <;> simp [hc]
  next ha => simp [ha]

theorem sendable_of_apart (h : c.connectionState ≠ .connected) : c.Sendable :=
  fun connected => absurd connected h

theorem disconnect_connectionState (c : Core) :
    c.disconnect.1.connectionState = c.connectionState := by
  unfold disconnect
  split
  · split <;> rfl
  · rfl

theorem sendable_disconnect (h : c.Sendable) :
    c.disconnect.1.Sendable ↔ c.connectionState ≠ .connected := by
  constructor
  · intro ha connected
    obtain ⟨ty, hcu⟩ := Option.ne_none_iff_exists'.mp (h connected)
    have hc : c.disconnect.1.currentTransceiver = none := by simp [disconnect, connected, hcu]
    exact ha ((disconnect_connectionState c).trans connected) hc
  · intro hap
    exact sendable_of_apart (by rwa [disconnect_connectionState])

theorem sendable_connect (h : c.Sendable) (url room : String) (isReconnect : Bool) :
    (c.connect url room isReconnect).1.Sendable := by
  unfold connect
  dsimp only
  split
  · exact h
  · exact sendable_of_apart (by simp)

theorem sendable_reconnect (h : c.Sendable) : c.reconnect.1.Sendable := by
  unfold reconnect
  split
  · exact sendable_connect h _ _ _
  · exact h

theorem opened_currentTransceiver (c : Core) (type : ConnectionType) :
    (c.opened type).currentTransceiver = some type := by
  cases type with
  | usb => rfl
  | webSocket =>
    simp only [opened]
    split <;> rfl

theorem sendable_onOpen (h : c.Sendable) (type : ConnectionType) : (c.onOpen type).1.Sendable := by
  unfold onOpen
  split
  · exact h
  · intro _
    simp [opened_currentTransceiver]

theorem Ends.sendable {handled : Core × List Effect} (h : c.Ends handled) : handled.1.Sendable := by
  cases h <;> exact sendable_of_apart nofun

theorem sendable_onClosed (h : c.Sendable) (ty : ConnectionType) : (c.onClosed ty).1.Sendable := by
  rcases onClosed_spec c ty with ⟨-, he⟩ | he
  · rwa [he]
  · exact he.sendable

theorem sendable_onFailure (h : c.Sendable) (ty : ConnectionType) (msg : String)
    (code : Int) : (c.onFailure ty msg code).1.Sendable := by
  rcases onFailure_spec c ty msg code with ⟨-, he⟩ | he
  · rwa [he]
  · exact he.sendable

end Core

namespace System
variable {s : System}

theorem sendable_notify (h : s.core.Sendable) (notice : Notice) :
    (s.notify notice).core.Sendable := by
  cases notice with
  | onMessage msg => exact h
  | onStatusChanged st code info =>
    cases st with
    | connected => simpa [notify] using sendable_onOpen h .usb
    | disconnected => simpa [notify] using sendable_onClosed h .usb
    | error => simpa [notify] using sendable_onFailure h .usb info code

theorem sendable_callback (h : s.core.Sendable) (called : Option Callback) :
    (s.callback called).core.Sendable := by
  cases called with
  | none => exact h
  | some callback =>
    cases callback with
    | onOpen => simpa [System.callback] using sendable_onOpen h .webSocket
    | onClosed => simpa [System.callback] using sendable_onClosed h .webSocket
    | onFailure fail => simpa [System.callback] using sendable_onFailure h .webSocket _ _

theorem sendable_usbTask (h : s.core.Sendable) (task : UsbTask) :
    (s.runTask (.usb task)).core.Sendable := by
  have told : ∀ (notices : List Notice) (s : System), s.core.Sendable →
      (notices.foldl notify s).core.Sendable := by
    intro notices
    induction notices with
    | nil => exact fun _ => id
    | cons notice xs ih => exact fun s hb => ih _ (sendable_notify hb notice)
  exact told _ _ h

/-- The step runs `Disconnect` on an established connection. -/
def Severs (s : System) (a : Act) : Prop :=
  s.core.connectionState = .connected ∧
    (a = .disconnect ∨
      a = .take ∧ s.board.task = none ∧ s.board.queue.head? = some (.other .disconnect))

theorem sendable_take (h : s.core.Sendable) : s.take.core.Sendable ↔ ¬ s.Severs .take := by
  unfold take
  split
  next task xs hr hw =>
    have severs : s.Severs .take ↔ s.core.connectionState = .connected ∧ task = .disconnect := by
      simp [Severs, hr, hw]
    rw [severs]
    cases task with
    | connect url room => simpa [runTask] using sendable_connect h url room false
    | disconnect => simpa [runTask] using sendable_disconnect h
    | reconnect => simpa [runTask] using sendable_reconnect h
    | usb task => simpa using sendable_usbTask (s := { s with board := s.board.take }) h task
  next ho =>
    refine iff_of_true h ?_
    rintro ⟨-, hd | ⟨-, hr, hw⟩⟩
    · cases hd
    · obtain ⟨xs, hq⟩ := List.head?_eq_some_iff.mp hw
      exact ho _ _ hr hq

theorem sendable_work (h : s.core.Sendable) : s.work.core.Sendable := by
  unfold work
  split
  · exact h
  next pt hh =>
    change (s.serve pt).core.Sendable
    unfold serve
    split
    · split
      · simpa using sendable_onClosed h .usb
      · exact h
    · exact h
    · exact h
    · exact h

theorem sendable_advance (h : s.core.Sendable) (i : Nat) : (s.advance i).core.Sendable := by
  unfold advance
  dsimp only
  split
  · exact sendable_of_apart (by simp)
  · exact h

theorem sendable_step (s : System) (a : Act) (h : s.core.Sendable) :
    (s.step a).core.Sendable ↔ ¬ s.Severs a := by
  have hk : (a ≠ .disconnect ∧ a ≠ .take) → (s.step a).core.Sendable →
      ((s.step a).core.Sendable ↔ ¬ s.Severs a) := by
    rintro ⟨hs, hw⟩ ha
    refine iff_of_true ha ?_
    rintro ⟨-, hd | ⟨ht, -⟩⟩
    · exact hs hd
    · exact hw ht
  cases a with
  | disconnect => simpa [step, Severs] using sendable_disconnect h
  | take => exact sendable_take h
  | connect url room => exact hk (by simp) (by simpa [step] using sendable_connect h url room false)
  | advance i => exact hk (by simp) (sendable_advance h i)
  | work => exact hk (by simp) (sendable_work h)
  | webSocketWorker fail =>
    exact hk (by simp) (sendable_callback
      (s := { s with webSocket := (s.webSocket.stepWorker fail).1 }) h _)
  | webSocketTask fail =>
    exact hk (by simp) (sendable_callback
      (s := { s with webSocket := (s.webSocket.stepTask fail).1 }) h _)
  | send msg => exact hk (by simp) (by simpa [step] using h)
  | accept =>
    refine hk (by simp) ?_
    simp only [step]
    split <;> exact h
  | usbClient task =>
    refine hk (by simp) ?_
    simp only [step]
    split
    · split <;> exact h
    · exact h
  | connectAsync | disconnectAsync | setConfig | call | webSocketThrow => exact hk (by simp) h

/-- In state CONNECTED there is a transceiver, so that no `Send` goes through a null pointer. -/
def SendsSafely (s : System) : Prop :=
  (s.core.connectionState = .connected → s.core.currentTransceiver ≠ none) ∧
    ∀ message, (s.core.send message).isSome

theorem sendsSafely_iff (s : System) : s.SendsSafely ↔ s.core.Sendable := by
  constructor
  · exact fun hsa => hsa.1
  · exact fun hs => ⟨hs, fun msg => (s.core.send_isSome msg).mpr hs⟩

theorem sendsSafely_throughout_iff (acts : List Act) :
    Throughout step SendsSafely initial acts ↔ Along step (fun s a => ¬ s.Severs a) initial acts := by
  refine @throughout_iff_along _ _ _ _ _ (fun _ => True) _ _ (fun _ _ _ _ => trivial) ?_ trivial ?_
  · intro s a _ hs
    rw [sendsSafely_iff] at *
    exact sendable_step s a hs
  · exact (sendsSafely_iff initial).mpr (Core.sendable_of_apart (by simp [initial, Core.initial]))

def openWebSocket (url room : String) : List Act :=
  [.connect url room, .webSocketWorker none, .webSocketTask none, .webSocketTask none,
    .webSocketTask none, .webSocketTask none]

/-- An open WebSocket, `Disconnect`, `Send`: the pointer is null in state CONNECTED. -/
theorem disconnect_leaves_connected :
    let s := (openWebSocket "ws://host/page/android" "room" ++ [Act.disconnect]).foldl step initial
    s.core.connectionState = .connected ∧ s.core.currentTransceiver = none ∧
      s.core.send "message" = none := by
  decide +kernel

end System

end DebugRouter.Native
