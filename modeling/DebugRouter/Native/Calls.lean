import DebugRouter.Native.Processor

/-!
What the processor asks of its handler, whatever arrives: the only list of sessions it sends is the
one it collects from the handler, and nothing else that it sends speaks of a session.
-/
namespace DebugRouter.Native

open List Processor

def Outgoing.sessions : Outgoing → List Int
  | sessionList _ list => list.map SessionInfo.sessionId
  | customized _ _ sessionId _ _ _ => [sessionId]
  | register .. | joinRoom _ | changeRoomServerAck _ | appResult .. | appError ..
  | stopAtEntry .. => []

def Outgoing.list? : Outgoing → Option (List SessionInfo)
  | sessionList _ list => some list
  | customized .. | register .. | joinRoom _ | changeRoomServerAck _ | appResult .. | appError ..
  | stopAtEntry .. => none

inductive HandlerCall.Made (cpp : JsonCpp) (h : MessageHandler) : HandlerCall → Prop
  | list (clientId : Option UInt32) {list : List SessionInfo}
      (collected : collectSessions cpp h.sessionList = .ok list) :
        Made cpp h (sendMessage (.sessionList clientId list))
  | other {message : Outgoing} (nameless : message.sessions = []) (unlisted : message.list? = none) :
      Made cpp h (sendMessage message)
  | onMessage (type : String) (sessionId : Int) (message : String) :
      Made cpp h (onMessage type sessionId message)
  | openCard (url : String) : Made cpp h (openCard url)
  | changeRoomServer (url room : String) : Made cpp h (changeRoomServer url room)

namespace Processor
variable {cpp : JsonCpp} {h : MessageHandler} {p p' : Processor} {calls : List HandlerCall}

theorem sessionList_made (hl : p.sessionList cpp (some h) = .ok calls) :
    ∀ c ∈ calls, c.Made cpp h := by
  simp only [sessionList] at hl
  cases hc : collectSessions cpp h.sessionList with
  | error what => simp [hc] at hl
  | ok list =>
    simp only [hc, Except.ok.injEq] at hl
    subst hl
    intro c only
    rw [mem_singleton.mp only]
    exact .list p.clientId hc

theorem processMessage_made (ty : String) (sid : Int) (msg : String) :
    ∀ c ∈ processMessage (some h) ty sid msg, c.Made cpp h := by
  intro c only
  rw [mem_singleton.mp only]
  exact .onMessage ty sid msg

theorem ifAddressed_made {cid : UInt32} {given : List HandlerCall}
    (ha : p.ifAddressed cid given = .ok calls) (hm : ∀ c ∈ given, c.Made cpp h) :
    ∀ c ∈ calls, c.Made cpp h := by
  unfold ifAddressed at ha
  split at ha
  · cases ha
  · cases ha
    split
    · exact hm
    · simp

variable {custom : CustomData}

theorem handleAppAction_made
    (hh : p.handleAppAction cpp (some h) custom = .ok calls) : ∀ c ∈ calls, c.Made cpp h := by
  unfold handleAppAction at hh
  split at hh
  · cases hh
  · cases hh
  · dsimp only at hh
    split at hh
    all_goals
      cases hh
      intro c only
      rw [mem_singleton.mp only]
      exact .other rfl rfl

theorem dispatchCustom_made
    (hd : p.dispatchCustom cpp (some h) custom = .ok calls) : ∀ c ∈ calls, c.Made cpp h := by
  unfold dispatchCustom at hd
  split at hd
  · split at hd
    · cases hd
    · exact ifAddressed_made hd (processMessage_made _ _ _)
  split at hd
  · exact ifAddressed_made hd (processMessage_made _ _ _)
  split at hd
  · exact ifAddressed_made hd (processMessage_made _ _ _)
  split at hd
  · split at hd <;> cases hd
    intro c only
    rw [mem_singleton.mp only]
    exact .openCard _
  split at hd
  · exact sessionList_made hd
  split at hd
  · exact handleAppAction_made hd
  · -- any other type is taken for a message to an extension
    split at hd
    · cases hd
    · exact ifAddressed_made hd (processMessage_made _ _ _)

theorem dispatch_made {body : Body} (hd : p.dispatch cpp (some h) body = .ok (p', calls)) :
    ∀ c ∈ calls, c.Made cpp h := by
  cases body with
  | init cid =>
    cases hd
    split
    · intro c only
      rw [mem_singleton.mp only]
      exact .other rfl rfl
    · simp
  | registered =>
    cases hd
    intro c only
    rw [mem_singleton.mp only]
    exact .other rfl rfl
  | roomJoined =>
    simp only [dispatch] at hd
    cases hl : p.sessionList cpp (some h) with
    | error fault => simp [hl, Except.map] at hd
    | ok sent =>
      simp only [hl, Except.map, Except.ok.injEq, Prod.mk.injEq] at hd
      exact hd.2 ▸ sessionList_made hl
  | changeRoomServer url room =>
    cases hd
    intro c hi
    rcases mem_pair.mp hi with rfl | rfl
    · exact .other rfl rfl
    · exact .changeRoomServer url room
  | custom custom =>
    simp only [dispatch] at hd
    cases hm : p.dispatchCustom cpp (some h) custom with
    | error fault => simp [hm, Except.map] at hd
    | ok sent =>
      simp only [hm, Except.map, Except.ok.injEq, Prod.mk.injEq] at hd
      exact hd.2 ▸ dispatchCustom_made hm

theorem process_made {msg : List UInt8}
    (hp : p.process cpp (some h) msg = .ok (p', calls)) : ∀ c ∈ calls, c.Made cpp h := by
  unfold process at hp
  split at hp
  · cases hp
  unfold processRoot at hp
  split at hp
  · cases hp
  · cases hp
    simp
  · exact dispatch_made hp

end Processor

end DebugRouter.Native
