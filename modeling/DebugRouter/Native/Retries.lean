import DebugRouter.Library.Runs
import DebugRouter.Native.Core

/-!
How often the core reconnects, whatever the order in which its handlers are called. A callback names
its transceiver and not the connection it is about, so the close of a connection that has failed is
only known by what is current.
-/
namespace DebugRouter.Native

open Library List Core

inductive CoreAct where
  | connect (url room : String)
  | disconnect
  | reconnect
  | onOpen (type : ConnectionType) (connection : Nat)
  | onClosed (type : ConnectionType) (connection : Nat)
  | onFailure (type : ConnectionType) (connection : Nat) (message : String) (code : Int)
  | setConfig (forbidReconnectWhenClose : String)
  | storeDisconnected
  deriving DecidableEq

namespace Core
variable (c : Core)

def handle : CoreAct → Core × List Effect
  | .connect url room => c.connect url room false
  | .disconnect => c.disconnect
  | .reconnect => c.reconnect
  | .onOpen type _ => c.onOpen type
  | .onClosed type _ => c.onClosed type
  | .onFailure type _ message code => c.onFailure type message code
  | .setConfig value => ({ c with forbidReconnectWhenClose := value }, [])
  | .storeDisconnected => ({ c with connectionState := .disconnected }, [])

def posts (a : CoreAct) : Nat := (c.handle a).2.count .postReconnect

/-- A `Connect` of the application that is not redundant. -/
def fresh : CoreAct → Bool
  | .connect url room =>
    ¬ (room = c.roomId ∧ hostOf url = c.hostUrl ∧ c.connectionState ≠ .disconnected)
  | _ => false

end Core

def opensUsb : CoreAct → Bool
  | .onOpen type _ => type = .usb
  | _ => false

structure Retries where
  core : Core
  pending : Nat
  scheduled : Nat
  /-- Whether a USB connection has opened since then. -/
  usbOpened : Bool

namespace Retries
variable (s : Retries)

def initial : Retries := ⟨.initial, 0, 0, false⟩

def step (a : CoreAct) : Retries :=
  if a = .reconnect ∧ s.pending = 0 then s
  else
    { core := (s.core.handle a).1
      pending := s.pending + s.core.posts a - if a = .reconnect then 1 else 0
      scheduled := (if s.core.fresh a then 0 else s.scheduled) + s.core.posts a
      usbOpened := opensUsb a || s.usbOpened && !s.core.fresh a }

end Retries

/- The handlers -/

namespace Core

/-- What a handler does to the counter, the server and the current transceiver. -/
structure Moved (c : Core) (a : CoreAct) (handled : Core × List Effect) : Prop where
  retry : handled.1.retryTimes =
    (if c.fresh a then 0 else c.retryTimes) + handled.2.count .postReconnect
  bound : c.retryTimes ≤ 3 → handled.1.retryTimes ≤ 3
  posted : handled.2.count .postReconnect ≤ 1
  server : c.fresh a = false → handled.1.serverUrl = c.serverUrl ∨ handled.1.serverUrl = ""
  current : ∀ type, handled.1.currentTransceiver = some type →
    c.currentTransceiver = some type ∨ ∃ k, a = .onOpen type k
  usb : handled.1.connectionState = .connected → handled.1.currentTransceiver = some .usb →
    handled.1.serverUrl = "" ∨ handled.1.serverUrl = c.serverUrl ∧ c.connectionState = .connected ∧
      c.currentTransceiver = some .usb
  opened : opensUsb a = true →
    handled.1.connectionState = .connected ∧ handled.1.currentTransceiver = some .usb

variable {c : Core} {a : CoreAct}

theorem moved_ignored {told : List Effect} (ht : told.count .postReconnect = 0)
    (hf : c.fresh a = false)
    (ho : opensUsb a = true → c.connectionState = .connected ∧ c.currentTransceiver = some .usb) :
    c.Moved a (c, told) := by
  constructor <;> simp_all

theorem Ends.moved {handled : Core × List Effect} (h : c.Ends handled) (hf : c.fresh a = false)
    (ho : opensUsb a = false) : c.Moved a handled := by
  cases h with
  | done first ht => constructor <;> simp_all [count_eq_zero.mpr ht.not_post]
  | retry first ht hl =>
    have hl : c.retryTimes ≤ 2 := by omega
    constructor <;> simp_all [count_eq_zero.mpr ht.not_post]

theorem count_closed (closed : List ConnectionType) :
    (closed.map Effect.transceiverDisconnect).count .postReconnect = 0 :=
  count_eq_zero.mpr (by simp)

theorem moved_disconnect (c : Core) : c.Moved .disconnect c.disconnect := by
  obtain ⟨current, closed, he, rfl | ⟨rfl, rfl⟩⟩ := disconnect_spec c <;> rw [he]
  · constructor <;> simp [count_closed, fresh, opensUsb]
  · exact moved_ignored rfl rfl nofun

theorem moved_connect (c : Core) (a : CoreAct) (url room : String) (isReconnect : Bool)
    (ho : opensUsb a = false)
    (hf : c.fresh a = (!isReconnect &&
      ¬ (room = c.roomId ∧ hostOf url = c.hostUrl ∧ c.connectionState ≠ .disconnected)))
    (hu : isReconnect = true → url = c.serverUrl) : c.Moved a (c.connect url room isReconnect) := by
  unfold connect
  dsimp only
  split
  next hr => exact moved_ignored rfl (by rw [hf]; simp [hr]) (by simp [ho])
  next hr =>
    have hn : c.fresh a = !isReconnect := by rw [hf]; simp [hr]
    cases isReconnect with
    | true =>
      obtain ⟨current, closed, he, rfl | ⟨rfl, rfl⟩⟩ :=
        disconnect_spec c <;> simp only [if_true, he] <;>
        constructor <;> simp_all [count_closed]
    | false =>
      obtain ⟨current, closed, he, rfl | ⟨rfl, rfl⟩⟩ :=
          disconnect_spec { c with isFirstConnect := .firstConnect, retryTimes := 0 } <;>
        simp only [Bool.false_eq_true, if_false, he] <;> constructor <;> simp_all [count_closed]

theorem moved_reconnect (c : Core) : c.Moved .reconnect c.reconnect := by
  unfold reconnect
  split
  · exact moved_connect c .reconnect _ _ true rfl (by simp [fresh]) fun _ => rfl
  · exact moved_ignored rfl rfl nofun

theorem moved_onOpen (c : Core) (ty : ConnectionType) (k : Nat) :
    c.Moved (.onOpen ty k) (c.onOpen ty) := by
  rcases onOpen_spec c ty with ⟨hc, he⟩ | ⟨closed, told, he, ht⟩ <;> rw [he]
  · exact moved_ignored rfl rfl fun ho => of_decide_eq_true ho ▸ hc
  · have hp := count_eq_zero.mpr ht.not_post
    cases ty with
    | usb => constructor <;> simp [fresh, opened, count_closed, hp]
    | webSocket =>
      unfold opened
      dsimp only
      split <;> constructor <;> simp [fresh, opensUsb, count_closed, hp]

theorem moved_handle (c : Core) (a : CoreAct) : c.Moved a (c.handle a) := by
  cases a with
  | connect url room =>
    exact moved_connect c (.connect url room) url room false rfl (by simp [fresh]) nofun
  | disconnect => exact moved_disconnect c
  | reconnect => exact moved_reconnect c
  | onOpen ty k => exact moved_onOpen c ty k
  | onClosed ty k =>
    dsimp only [handle]
    rcases onClosed_spec c ty with ⟨-, he⟩ | he
    · rw [he]
      exact moved_ignored rfl rfl nofun
    · exact he.moved rfl rfl
  | onFailure ty k msg code =>
    dsimp only [handle]
    rcases onFailure_spec c ty msg code with ⟨-, he⟩ | he
    · rw [he]
      exact moved_ignored rfl rfl nofun
    · exact he.moved rfl rfl
  | setConfig | storeDisconnected => constructor <;> simp_all [handle, fresh, opensUsb]

end Core

namespace Retries

structure Bounded (s : Retries) : Prop where
  counted : s.scheduled ≤ s.core.retryTimes
  bound : s.core.retryTimes ≤ 3
  away : s.usbOpened = true → s.core.serverUrl = ""
  usb : s.core.connectionState = .connected → s.core.currentTransceiver = some .usb →
    s.core.serverUrl = ""

variable {s : Retries} {ty : ConnectionType}

theorem Bounded.step (h : s.Bounded) (a : CoreAct) : (s.step a).Bounded := by
  unfold Retries.step
  split
  · exact h
  have hm := s.core.moved_handle a
  have usb : (s.core.handle a).1.connectionState = .connected →
      (s.core.handle a).1.currentTransceiver = some .usb →
      (s.core.handle a).1.serverUrl = "" := fun hs hu =>
    (hm.usb hs hu).elim id fun hk => hk.1.trans (h.usb hk.2.1 hk.2.2)
  refine ⟨?_, hm.bound h.bound, fun ho => ?_, usb⟩
  · have hr := hm.retry
    have hc := h.counted
    dsimp only [posts]
    split at hr <;> simp_all
  · rcases Bool.or_eq_true_iff.mp ho with ho | ho
    · exact usb (hm.opened ho).1 (hm.opened ho).2
    · rw [Bool.and_eq_true, Bool.not_eq_true'] at ho
      exact (hm.server ho.2).elim (fun hs => hs.trans (h.away ho.1)) id

theorem onClosed_ignored {c : Core} (h : c.currentTransceiver ≠ some ty) (k : Nat) :
    c.posts (.onClosed ty k) = 0 := by
  dsimp only [posts, handle]
  rw [onClosed, if_pos (.inl h.symm)]
  rfl

theorem stays_away (acts : List CoreAct) (ho : ∀ k, .onOpen ty k ∉ acts)
    (h : s.core.currentTransceiver ≠ some ty) :
    (acts.foldl step s).core.currentTransceiver ≠ some ty := by
  induction acts generalizing s with
  | nil => exact h
  | cons a rest ih =>
    refine ih (fun k hk => ho k (mem_cons_of_mem _ hk)) ?_
    unfold step
    split
    · exact h
    · intro hc
      obtain hc | ⟨k, rfl⟩ := (s.core.moved_handle a).current ty hc
      · exact h hc
      · exact ho k mem_cons_self

/-- Three tasks at most are posted after a fresh `Connect`, of which one for a connection that fails
and is then closed if no other has opened meanwhile, and none connects again once a USB connection
has opened. -/
theorem reconnects_bounded (acts : List CoreAct) :
    Throughout step (fun s => s.scheduled ≤ 3 ∧
      (s.usbOpened = true → s.core.reconnect = (s.core, []))) initial acts ∧
      ∀ before between after type k message code,
        acts = before ++ .onFailure type k message code :: (between ++ .onClosed type k :: after) →
        (∀ j, .onOpen type j ∉ between) →
        (before.foldl step initial).core.posts (.onFailure type k message code) +
          ((before ++ .onFailure type k message code :: between).foldl step initial).core.posts
            (.onClosed type k) ≤ 1 := by
  have hi : initial.Bounded := ⟨by decide, by decide, nofun, nofun⟩
  constructor
  · refine throughout_mono (fun s h => ⟨h.counted.trans h.bound, fun ho => ?_⟩)
      (throughout_of_invariant (fun _ a h => h.step a) hi acts)
    simp [reconnect, h.away ho]
  · intro before between after type k message code _ ho
    rw [foldl_append, foldl_cons]
    generalize before.foldl step initial = s
    rcases s.core.onFailure_spec type message code with ⟨-, he⟩ | he
    · rw [show s.core.posts (.onFailure type k message code) =
        0 by simp [posts, handle, he], Nat.zero_add]
      exact (moved_handle _ (.onClosed type k)).posted
    · have hs : (s.step (.onFailure type k message code)).core.currentTransceiver ≠ some type := by
        simp [step, handle, he.ended]
      rw [onClosed_ignored (stays_away between ho hs)]
      exact (moved_handle _ _).posted

/-- The close of the first connection comes after the second has opened and is taken for its close. -/
theorem stale_close_reconnects :
    let before := [CoreAct.connect "ws://host" "room", .onOpen .webSocket 1]
    let between := [CoreAct.reconnect, .onOpen .webSocket 2]
    (before.foldl step initial).core.posts (.onFailure .webSocket 1 "" 0) = 1 ∧
      ((before ++ .onFailure .webSocket 1 "" 0 :: between).foldl step initial).core.posts
        (.onClosed .webSocket 1) = 1 := by
  decide

end Retries

end DebugRouter.Native
