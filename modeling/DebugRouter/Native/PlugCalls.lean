import Mathlib.Logic.Function.Basic
import DebugRouter.Library.Runs
import DebugRouter.Native.Sessions

/-!
Calls of `Plug` and `Pull` from several threads. A slot is stored under the lock, but
`max_session_id_` is read again without it for every session handler and for the result.
-/
namespace DebugRouter.Native

open Library

inductive PlugStage where
  | log
  | collect
  | tell (handlers : List Nat)
  | returned (id : Int)
  deriving DecidableEq

/-- A call of `Plug` that has stored its slot, the id it stored it under and what it does next. -/
structure PlugCall where
  slot : Slot
  own : Int
  next : PlugStage
  deriving DecidableEq

structure SessionCreated where
  call : Nat
  handler : Nat
  sessionId : Int
  url : String
  deriving DecidableEq

/-- `max_session_id_` is an `int32_t`. -/
structure PlugRun where
  maxSessionId : Int
  slots : OrderedMap Int Slot
  sessionHandlers : List Nat
  calls : Nat → Option PlugCall
  created : List SessionCreated

inductive PlugAct where
  | store (call : Nat) (slot : Slot)
  | advance (call : Nat)
  | pull (sessionId : Int)
  | setHandlers (handlers : List Nat)

namespace PlugRun
variable (s : PlugRun)

def initial : PlugRun := ⟨0, .empty, [], fun _ => none, []⟩

def become (i : Nat) (call : PlugCall) : PlugRun :=
  { s with calls := Function.update s.calls i (some call) }

/-- `max_session_id_ + 1`, which wraps around where it does not trap. -/
def nextSessionId : Int := (s.maxSessionId + 1).bmod (2 ^ 32)

def store (slot : Slot) : PlugRun :=
  { s with maxSessionId := s.nextSessionId, slots := s.slots.set s.nextSessionId slot }

def tell (event : SessionCreated) : PlugRun := { s with created := s.created ++ [event] }

def advance (i : Nat) (call : PlugCall) : PlugRun :=
  match call.next with
  -- After the log the session list is flushed and the state of the connection told.
  | .log => s.become i { call with next := .collect }
  | .collect => s.become i { call with next := .tell s.sessionHandlers }
  | .tell (handler :: rest) =>
    (s.tell ⟨i, handler, s.maxSessionId, call.slot.url⟩).become i { call with next := .tell rest }
  | .tell [] => s.become i { call with next := .returned s.maxSessionId }
  | .returned _ => s

def step : PlugAct → PlugRun
  | .store i slot =>
    if s.calls i = none then (s.store slot).become i ⟨slot, s.nextSessionId, .log⟩ else s
  | .advance i => (s.calls i).elim s (s.advance i)
  | .pull sessionId => { s with slots := s.slots.delete sessionId }
  | .setHandlers handlers => { s with sessionHandlers := handlers }

/-- What is returned and what the handlers are told is the id of the call's own slot, and no two calls
return the same. -/
structure Truthful : Prop where
  result : ∀ i call id, s.calls i = some call → call.next = .returned id → id = call.own
  apart : ∀ i j call other id, i ≠ j → s.calls i = some call → s.calls j = some other →
    call.next = .returned id → other.next ≠ .returned id
  told : ∀ t ∈ s.created, ∃ call,
    s.calls t.call = some call ∧ t.sessionId = call.own ∧ t.url = call.slot.url

/-- No slot is stored while another call has still to tell or to return its id, nor once the counter
is at its end. -/
def Alone : PlugAct → Prop
  | .store _ _ => s.maxSessionId < 2 ^ 31 - 1 ∧
    ∀ j call, s.calls j = some call → ∃ id, call.next = .returned id
  | _ => True

/-- A call that has still to tell or to return its id sees it in the counter. -/
def Fits (own : Int) : PlugStage → Prop
  | .returned id => id = own ∧ own ≤ s.maxSessionId
  | _ => own = s.maxSessionId

structure Owned : Prop where
  counted : 0 ≤ s.maxSessionId
  fits : ∀ i call, s.calls i = some call → s.Fits call.own call.next
  apart : ∀ i j call other, i ≠ j → s.calls i = some call → s.calls j = some other →
    call.own ≠ other.own
  told : ∀ t ∈ s.created, ∃ call,
    s.calls t.call = some call ∧ t.sessionId = call.own ∧ t.url = call.slot.url

variable {s} {i : Nat} {c : PlugCall}
variable {next : PlugStage}

theorem Fits.le {own : Int} (h : s.Fits own next) : own ≤ s.maxSessionId := by
  cases next with
  | returned id => exact h.2
  | log | collect | tell => exact le_of_eq h

theorem Owned.result (h : s.Owned) {id : Int} (hi : s.calls i = some c) (hr : c.next = .returned id) :
    id = c.own := by
  have hf := h.fits i c hi
  rw [hr] at hf
  exact hf.1

theorem Owned.truthful (h : s.Owned) : s.Truthful where
  result _ _ _ hi := h.result hi
  told := h.told
  apart := by
    intro i j c o id hij hi hj hr hr'
    exact h.apart i j c o hij hi hj ((h.result hi hr).symm.trans (h.result hj hr'))

theorem become_calls (i j : Nat) (c : PlugCall) :
    (s.become i c).calls j = if j = i then some c else s.calls j := by
  simp only [become, Function.update_apply]

theorem Owned.become (h : s.Owned) (hf : s.Fits c.own c.next)
    (ha : ∀ j o, j ≠ i → s.calls j = some o → o.own ≠ c.own)
    (ht : ∀ t ∈ s.created, t.call = i → t.sessionId = c.own ∧ t.url = c.slot.url) :
    (s.become i c).Owned where
  counted := h.counted
  fits := by
    intro j o hj
    rw [become_calls] at hj
    split at hj
    · cases hj
      exact hf
    · exact h.fits j o hj
  apart := by
    intro j k x second hjk hj hk
    rw [become_calls] at hj hk
    split at hj <;> split at hk
    next hi hi' => exact absurd (hi.trans hi'.symm) hjk
    · cases hj
      exact (ha k second ‹_› hk).symm
    · cases hk
      exact ha j x ‹_› hj
    · exact h.apart j k x second hjk hj hk
  told := by
    intro t hm
    rw [become_calls]
    split
    · exact ⟨c, rfl, ht t hm ‹_›⟩
    · exact h.told t hm

theorem Owned.proceed (h : s.Owned) (hi : s.calls i = some c) (hf : s.Fits c.own next) :
    (s.become i { c with next := next }).Owned := by
  refine h.become hf (fun j o hj hc => h.apart j i o c hj hc hi) fun t hm he => ?_
  obtain ⟨o, hc, hs⟩ := h.told t hm
  rw [he, hi] at hc
  cases hc
  exact hs

theorem Owned.store (h : s.Owned) {slot : Slot} (hi : s.calls i = none)
    (alone : s.Alone (.store i slot)) :
    ((s.store slot).become i ⟨slot, s.nextSessionId, .log⟩).Owned := by
  have counted := h.counted
  have room := alone.1
  have next : s.nextSessionId = s.maxSessionId + 1 :=
    Int.bmod_eq_of_le_mul_two (by omega) (by omega)
  have stored : (s.store slot).Owned := by
    refine ⟨by simp only [PlugRun.store, next]; omega, fun j o hj => ?_, h.apart, h.told⟩
    have fits := h.fits j o hj
    obtain ⟨id, returned⟩ := alone.2 j o hj
    rw [returned] at fits ⊢
    refine ⟨fits.1, fits.2.trans ?_⟩
    simp only [PlugRun.store, next]
    omega
  refine stored.become rfl (fun j o _ hj => ?_) fun t hm he => ?_
  · have below := (h.fits j o hj).le
    dsimp only
    omega
  · obtain ⟨o, hc, -⟩ := h.told t hm
    rw [he, hi] at hc
    cases hc

theorem Owned.advance (h : s.Owned) (hi : s.calls i = some c) : (s.advance i c).Owned := by
  have hf := h.fits i c hi
  unfold PlugRun.advance
  split
  all_goals rename_i hn; rw [hn] at hf
  · exact h.proceed hi hf
  · exact h.proceed hi hf
  · refine Owned.proceed (s := s.tell _) ⟨h.counted, h.fits, h.apart, fun t hm => ?_⟩ hi hf
    rcases List.mem_append.mp hm with hm | hm
    · exact h.told t hm
    · cases List.mem_singleton.mp hm
      exact ⟨c, hi, hf.symm, rfl⟩
  · exact h.proceed hi ⟨hf.symm, hf.le⟩
  · exact h

theorem Owned.step (h : s.Owned) (a : PlugAct) (ha : s.Alone a) : (s.step a).Owned := by
  cases a with
  | store i slot =>
    dsimp only [PlugRun.step]
    split
    · exact h.store ‹_› ha
    · exact h
  | advance i =>
    dsimp only [PlugRun.step]
    cases hi : s.calls i with
    | none => exact h
    | some c => exact h.advance hi
  | pull | setHandlers => exact ⟨h.counted, h.fits, h.apart, h.told⟩

theorem plug_truthful (acts : List PlugAct) (alone : Along step Alone initial acts) :
    Throughout step Truthful initial acts := by
  have start : initial.Owned := ⟨le_rfl, nofun, nofun, nofun⟩
  exact throughout_mono (fun _ => Owned.truthful)
    (throughout_of_along (fun _ a h alone => h.step a alone) start alone)

theorem plug_truthful_single : Throughout step Truthful initial
      [.setHandlers [9], .store 0 ⟨"lynx", "a"⟩, .advance 0, .advance 0, .advance 0, .advance 0] :=
  plug_truthful _ ⟨trivial, ⟨by decide, nofun⟩, trivial, trivial, trivial, trivial, trivial⟩

theorem plug_same_id :
    let s := [PlugAct.setHandlers [9], .store 0 ⟨"lynx", "a"⟩, .store 1 ⟨"lynx", "b"⟩, .advance 0,
      .advance 0, .advance 0, .advance 0, .advance 1, .advance 1, .advance 1,
      .advance 1].foldl step initial
    s.calls 0 = some ⟨⟨"lynx", "a"⟩, 1, .returned 2⟩ ∧
      s.calls 1 = some ⟨⟨"lynx", "b"⟩, 2, .returned 2⟩ ∧
      s.created = [⟨0, 9, 2, "a"⟩, ⟨1, 9, 2, "b"⟩] ∧ ¬ s.Truthful := by
  refine ⟨by decide, by decide, by decide, fun h => ?_⟩
  exact h.apart 0 1 _ _ 2 (by decide) rfl rfl rfl rfl

end PlugRun

end DebugRouter.Native
