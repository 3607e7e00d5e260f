import DebugRouter.Library.Alternation
import DebugRouter.Library.Runs
import DebugRouter.Native.UsbServer

/-!
One USB client replaces another. The accept thread and the posted tasks of all the clients move
the two slots of the server in any order; what the listener is told of them is in order still.
-/
namespace DebugRouter.Native

open Library List UsbServer

/-- What is seen of the slots, with the client whose task is the cause. -/
inductive SlotEvent where
  | promoted (client : ClientId)
  | told (client : ClientId) (notice : Notice)
  deriving DecidableEq

namespace SlotEvent

def promoted? : SlotEvent → Option ClientId
  | promoted client => some client
  | told _ _ => none

def connected? : SlotEvent → Option ClientId
  | told client (.onStatusChanged .connected _ _) => some client
  | _ => none

def ended? : SlotEvent → Option ClientId
  | told client (.onStatusChanged .disconnected _ _) => some client
  | told client (.onStatusChanged .error _ _) => some client
  | _ => none

def status? : SlotEvent → Option ConnectionStatus
  | told _ (.onStatusChanged status _ _) => some status
  | _ => none

end SlotEvent

/-- The task moves the client from `temp_usb_client_` to `usb_client_`. -/
def UsbServer.promotes (u : UsbServer) : UsbTask → Option ClientId
  | .onOpen client _ _ => if u.tempUsbClient = some client then some client else none
  | .onMessage _ _ | .onClose _ _ _ | .onError _ _ _ | .disconnect => none

inductive SlotAct where
  | accept
  | run (task : UsbTask)
  deriving DecidableEq

structure Slots where
  server : UsbServer
  events : List SlotEvent
  deriving DecidableEq

namespace Slots
variable {s : Slots}

def initial : Slots := ⟨.initial, []⟩

def adds (s : Slots) : SlotAct → List SlotEvent
  | .accept => []
  | .run task =>
    match task.client? with
    | none => []
    | some client =>
      (s.server.promotes task).toList.map .promoted ++ (s.server.run task).notices.map (.told client)

/-- A run without `Disconnect` and `StopServer`: every task is one of an accepted client. -/
def step (s : Slots) (a : SlotAct) : Slots :=
  match a with
  | .accept => { s with server := s.server.accept.server }
  | .run task =>
    match task.client? with
    | none => s
    | some client =>
      if client < s.server.accepted then ⟨(s.server.run task).server, s.events ++ s.adds a⟩ else s

/- What the listener is told -/

def OnlyPromotedNotify : List SlotEvent → Prop :=
  Justified fun before event => ∀ client notice, event = .told client notice →
    .promoted client ∈ before

def EndsOnce : List SlotEvent → Prop :=
  Justified fun before event => ∀ client, event.ended? = some client →
    (before.filterMap SlotEvent.promoted?).getLast? = some client ∧
      client ∉ before.filterMap SlotEvent.ended?

structure Orderly (s : Slots) : Prop where
  promotedNotify : OnlyPromotedNotify s.events
  promotedLast : ∀ client, s.server.usbClient = some client →
    (s.events.filterMap SlotEvent.promoted?).getLast? = some client
  connectedOnce : s.events.filterMap SlotEvent.connected? = s.events.filterMap SlotEvent.promoted?
  endsOnce : EndsOnce s.events
  current : (s.events.filterMap SlotEvent.status?).getLast? = some .connected ↔
    s.server.usbClient ≠ none

structure Tracked (s : Slots) : Prop where
  orderly : s.Orderly
  known : ∀ client, s.server.tempUsbClient = some client → client < s.server.accepted
  ended : ∀ client ∈ s.events.filterMap SlotEvent.ended?, client < s.server.accepted ∧
    s.server.usbClient ≠ some client ∧ s.server.tempUsbClient ≠ some client

theorem tracked_initial : initial.Tracked := by
  constructor
  case orderly => exact ⟨justified_nil, by simp [initial, UsbServer.initial], rfl, justified_nil,
    by simp [initial, UsbServer.initial]⟩
  case known => intro client hp; cases hp
  case ended => intro client ended; cases ended

variable {client : ClientId} {status : ConnectionStatus}

theorem Tracked.promoted_mem (ht : s.Tracked)
    (hc : s.server.usbClient = some client) : .promoted client ∈ s.events := by
  obtain ⟨ev, mem, promoted⟩ := mem_filterMap.mp (mem_of_getLast? (ht.orderly.promotedLast client hc))
  cases ev with
  | promoted o =>
    cases promoted
    exact mem
  | told o notice => cases promoted

/- Steps -/

theorem Tracked.accept (h : s.Tracked) : (s.step .accept).Tracked := by
  constructor
  case orderly =>
    obtain ⟨hpro, hpr, hc, he, hcu⟩ := h.orderly
    exact ⟨hpro, hpr, hc, he, hcu⟩
  case known =>
    intro client hp
    cases hp
    exact Nat.lt_succ_self _
  case ended =>
    intro client ended
    obtain ⟨known, ha, -⟩ := h.ended client ended
    refine ⟨Nat.lt_succ_of_lt known, ha, ?_⟩
    intro hp
    exact known.ne (Option.some.inj hp).symm

theorem Tracked.promote (ht : s.Tracked)
    (hp : s.server.tempUsbClient = some client) (code : Int) (reason : String) :
    Tracked ⟨{ s.server with usbClient := some client },
      s.events ++ [.promoted client] ++
        [.told client (.onStatusChanged .connected code reason)]⟩ := by
  obtain ⟨hpr, -, hc, he, -⟩ := ht.orderly
  constructor
  case orderly =>
    constructor
    · apply justified_append (justified_append hpr _)
      · intro o notice told
        cases told
        simp
      · intro o notice told
        cases told
    · intro o hcu
      cases hcu
      simp [filterMap_cons, SlotEvent.promoted?]
    · simp [hc, filterMap_cons, SlotEvent.connected?, SlotEvent.promoted?]
    · apply justified_append (justified_append he _)
      · intro o ended
        cases ended
      · intro o ended
        cases ended
    · simp [filterMap_cons, SlotEvent.status?]
  case known => exact ht.known
  case ended =>
    intro o ended
    have before : o ∈ s.events.filterMap SlotEvent.ended? := by simpa [SlotEvent.ended?] using ended
    obtain ⟨known, -, ha⟩ := ht.ended o before
    exact ⟨known, fun hs => ha (hp.trans hs), ha⟩

theorem Tracked.deliver (ht : s.Tracked)
    (hp : s.server.usbClient = some client) (msg : String) :
    Tracked ⟨s.server, s.events ++ [.told client (.onMessage msg)]⟩ := by
  obtain ⟨hpro, hpr, hc, he, hcu⟩ := ht.orderly
  constructor
  case orderly =>
    constructor
    · apply justified_append hpro
      intro o notice told
      cases told
      exact ht.promoted_mem hp
    · simpa [SlotEvent.promoted?] using hpr
    · simp [hc, filterMap_cons, SlotEvent.connected?, SlotEvent.promoted?]
    · apply justified_append he
      intro o ended
      cases ended
    · simpa [SlotEvent.status?] using hcu
  case known => exact ht.known
  case ended => simpa [SlotEvent.ended?] using ht.ended

theorem Tracked.withdraw (h : s.Tracked) (client : ClientId) :
    Tracked { s with server.tempUsbClient :=
      if s.server.tempUsbClient = some client then none else s.server.tempUsbClient } := by
  obtain ⟨hpro, hpr, hc, he, hcu⟩ := h.orderly
  constructor
  case orderly => exact ⟨hpro, hpr, hc, he, hcu⟩
  case known =>
    intro other hp
    dsimp only at hp
    split at hp
    · cases hp
    · exact h.known other hp
  case ended =>
    intro other ended
    obtain ⟨known, hap, ha⟩ := h.ended other ended
    refine ⟨known, hap, ?_⟩
    dsimp only
    split
    · simp
    · exact ha

theorem Tracked.stop (ht : s.Tracked) (known : client < s.server.accepted)
    (hp : s.server.usbClient = some client) (hg : s.server.tempUsbClient ≠ some client)
    (he : status ≠ .connected) (code : Int) (reason : String) :
    Tracked ⟨{ s.server with usbClient := none },
      s.events ++ [.told client (.onStatusChanged status code reason)]⟩ := by
  obtain ⟨hpr, -, hc, hen, -⟩ := ht.orderly
  have ended : SlotEvent.ended? (.told client (.onStatusChanged status code reason)) =
      some client := by
    cases status <;> trivial
  have hu : SlotEvent.connected? (.told client (.onStatusChanged status code reason)) = none := by
    cases status <;> trivial
  constructor
  case orderly =>
    constructor
    · apply justified_append hpr
      intro o notice told
      cases told
      exact ht.promoted_mem hp
    · intro o hcu
      cases hcu
    · simp [hc, hu, SlotEvent.promoted?]
    · apply justified_append hen
      intro o hs
      cases ended.symm.trans hs
      refine ⟨ht.orderly.promotedLast client hp, ?_⟩
      intro hb
      exact (ht.ended client hb).2.1 hp
    · simp [SlotEvent.status?, he]
  case known => exact ht.known
  case ended =>
    intro o mem
    simp only [filterMap_append, mem_append, filterMap_cons, ended, filterMap_nil,
      mem_singleton] at mem
    rcases mem with hb | rfl
    · obtain ⟨hbe, -, ha⟩ := ht.ended o hb
      exact ⟨hbe, by simp, ha⟩
    · exact ⟨known, by simp, hg⟩

theorem Tracked.handleEnd (ht : s.Tracked) (hk : client < s.server.accepted)
    (he : status ≠ .connected) (code : Int) (reason : String) :
    Tracked ⟨(s.server.handleEnd client status code reason).server,
      s.events ++ (s.server.handleEnd client status code reason).notices.map (.told client)⟩ := by
  have hw := ht.withdraw client
  rw [handleEnd_server, handleEnd_notices]
  by_cases hp : s.server.usbClient = some client
  · rw [if_pos hp, if_pos hp]
    apply hw.stop hk hp _ he code reason
    dsimp only
    split
    · simp
    · assumption
  · rw [if_neg hp, if_neg hp, map_nil, append_nil]
    exact hw

theorem Tracked.step (h : s.Tracked) (a : SlotAct) : (s.step a).Tracked := by
  cases a with
  | accept => exact h.accept
  | run task =>
    unfold Slots.step
    dsimp only
    split
    · exact h
    next client hp =>
      split
      next hk =>
        simp only [adds, hp]
        cases task with
        | onOpen opened code reason =>
          cases hp
          simp only [promotes, run, handleOnOpenStatus]
          split
          next hpe => simpa using h.promote hpe code reason
          · simpa using h
        | onMessage snd msg =>
          cases hp
          simp only [promotes, run, handleOnMessageStatus]
          split
          next hc => exact h.deliver hc msg
          · simpa using h
        | onClose closed code reason =>
          cases hp
          exact h.handleEnd hk (by simp) code reason
        | onError failed code msg =>
          cases hp
          exact h.handleEnd hk (by simp) code msg
        | disconnect => cases hp
      · exact h

theorem usbClient_of_message {a : SlotAct} {msg : String}
    (h : .told client (.onMessage msg) ∈ s.adds a) : s.server.usbClient = some client := by
  cases a with
  | accept => cases h
  | run task =>
    unfold adds at h
    dsimp only at h
    split at h
    · cases h
    next poster hp =>
      simp only [mem_append, mem_map, reduceCtorEq, and_false, exists_false, false_or,
        SlotEvent.told.injEq] at h
      obtain ⟨notice, mem, rfl, rfl⟩ := h
      cases task with
      | onMessage snd text =>
        cases hp
        simp only [run, handleOnMessageStatus] at mem
        split at mem
        · assumption
        · cases mem
      | onOpen opened code reason =>
        simp only [run, handleOnOpenStatus] at mem
        split at mem <;> simp at mem
      | onClose closed code reason =>
        simp only [run, handleOnCloseStatus, handleEnd_notices] at mem
        split at mem <;> simp at mem
      | onError failed code msg =>
        simp only [run, handleOnErrorStatus, handleEnd_notices] at mem
        split at mem <;> simp at mem
      | disconnect => cases hp

theorem clients_replaced_in_order (acts : List SlotAct) :
    Throughout step Orderly initial acts ∧
      Along step (fun s a => ∀ client message, .told client (.onMessage message) ∈ s.adds a →
        s.server.usbClient = some client) initial acts := by
  have ht : Throughout step Tracked initial acts := by
    apply throughout_of_invariant _ tracked_initial
    exact fun s a ht => ht.step a
  constructor
  · exact throughout_mono (fun _ ht => ht.orderly) ht
  · apply along_of_throughout _ ht
    exact fun s a _ _ client message => usbClient_of_message

/-- Client 1 is accepted while client 0 is open; the close of client 0 is told all the same, its late
error is not, and client 1 opens after it. -/
example : ((([.accept, .run (.onOpen 0 0 "Init Success!"), .accept,
        .run (.onClose 0 0 "peer closed connection (EOF)"), .run (.onError 0 32 "broken pipe"),
        .run (.onOpen 1 0 "Init Success!")] : List SlotAct).foldl step initial).events.filterMap
          SlotEvent.status?) = [.connected, .disconnected, .connected] := by
  decide

end Slots

end DebugRouter.Native
