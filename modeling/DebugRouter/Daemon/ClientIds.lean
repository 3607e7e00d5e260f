import DebugRouter.Library.Json
import DebugRouter.Library.Runs

/-!
Client ids. A peer is a WebSocket or a USB connection; both are given ids by one counter. A
WebSocket is told its id in `Initialize` and registers with a frame of its own, at any time before
it is given up.
-/
namespace DebugRouter.Daemon

open Library Function

/-- The promise of `onConnection` is pending, was resolved by a registration, or is of no use any
more. -/
inductive Joining where
  | waiting | joined | over
  deriving DecidableEq

structure ClientIds where
  nextClientId : Nat
  issued : Nat → Option Int
  joining : Nat → Joining
  websocketAppClients : OrderedMap Int Nat
  webClients : OrderedMap Int Nat
  connections : OrderedMap Int Nat

/-- A frame is what `JSON.parse` makes of it. The timer is that of any frame. -/
inductive PeerEvent where
  | connected | message (response : Option Json) | timer | closed
  | connectionCreated | connectionDeleted

def registers (clientId : Int) (response : Json) : Bool :=
  response.get? "event" = some (.str "Register") ∧
    ((response.get? "data").bind (·.get? "id")) = some (Json.ofInt clientId)

def isDriver (response : Json) : Bool :=
  ((response.get? "data").bind (·.get? "type")) = some (.str "Driver")

namespace ClientIds
variable (s : ClientIds) (peer : Nat)

def initial : ClientIds := ⟨0, fun _ => none, fun _ => .over, .empty, .empty, .empty⟩

def createClientId : ClientIds × Int :=
  if 4294967294 < s.nextClientId then (s, -1)
  else ({ s with nextClientId := s.nextClientId + 1 }, s.nextClientId + 1)

def issue : ClientIds := { s.createClientId.1 with issued := update s.issued peer s.createClientId.2 }

def handleConnection (id : Int) (driver : Bool) : ClientIds :=
  { s with
      webClients := if driver then s.webClients.set id peer else s.webClients
      websocketAppClients := if driver then s.websocketAppClients
      else s.websocketAppClients.set id peer }

def handleDisconnect (id : Int) : ClientIds :=
  { s with
    websocketAppClients := s.websocketAppClients.delete id, webClients := s.webClients.delete id }

def addConnection : ClientIds :=
  let id := s.createClientId.2
  if s.connections.has id then s.issue peer
  else { s.issue peer with connections := s.connections.set id peer }

def settle (joining : Joining) : ClientIds := { s with joining := update s.joining peer joining }

def step (act : Nat × PeerEvent) : ClientIds :=
  match act.2, s.issued act.1 with
  | .connected, none => (s.issue act.1).settle act.1 .waiting
  | .connectionCreated, none => s.addConnection act.1
  | .message (some response), some id =>
    if s.joining act.1 = .waiting ∧ registers id response = true then
      (s.handleConnection act.1 id (isDriver response)).settle act.1 .joined
    else s
  | .timer, _ => if s.joining act.1 = .waiting then s.settle act.1 .over else s
  | .closed, some id =>
    if s.joining act.1 = .joined then (s.handleDisconnect id).settle act.1 .over
    else s.settle act.1 .over
  | .connectionDeleted, some id => { s with connections := s.connections.delete id }
  | _, _ => s

/-- Whose client a key stands for, in the map of the Drivers or in the other one. -/
def owner (driver : Bool) (id : Int) : Option Nat :=
  (if driver then s.webClients else s.websocketAppClients).get? id

structure Integral : Prop where
  distinct : ∀ p q id, s.issued p = some id → s.issued q = some id → p = q
  own : ∀ driver id p, s.owner driver id = some p → s.issued p = some id
  apart : ∀ p id id', s.owner true id = some p → s.owner false id' ≠ some p

/-- A peer's event leaves the entries of the others as they are. -/
def Spares (act : Nat × PeerEvent) : Prop :=
  ∀ driver id p, p ≠ act.1 → (s.owner driver id = some p ↔ (s.step act).owner driver id = some p)

def opens (act : Nat × PeerEvent) : Bool := act.2 matches .connected | .connectionCreated

/-- What carries the property through a run: no id is past the counter, and only a joined peer has
an entry. -/
structure Kept : Prop where
  integral : s.Integral
  bounded : ∀ p id, s.issued p = some id → id ≤ s.nextClientId
  joined : ∀ driver id p, s.owner driver id = some p → s.joining p = .joined

variable {s peer} {id : Int}
variable {driver d : Bool} {k : Int} {joining : Joining}

@[simp] theorem owner_handleConnection :
    (s.handleConnection peer id driver).owner d k = if d = driver ∧
    k = id then some peer else s.owner d k := by
  cases d <;> cases driver <;> simp [owner, handleConnection, eq_comm]

@[simp] theorem owner_handleDisconnect :
    (s.handleDisconnect id).owner d k = if k = id then none else s.owner d k := by
  cases d <;> simp [owner, handleDisconnect]

theorem issue_eq (hn : s.nextClientId ≤ 4294967294) : s.issue peer =
    { s with
      nextClientId := s.nextClientId + 1,
      issued := update s.issued peer (some (s.nextClientId + 1)) } := by
  simp [issue, createClientId, Nat.not_lt.mpr hn]

theorem Kept.issue (h : s.Kept) (hp : s.issued peer = none) (hn : s.nextClientId ≤ 4294967294) :
    (s.issue peer).Kept := by
  obtain ⟨⟨hd, own, ha⟩, hb, hj⟩ := h
  rw [issue_eq hn]
  refine ⟨⟨fun p q k => ?_, fun driver k p ho => ?_, ha⟩, fun p k => ?_, hj⟩
  · have := hb p k
    have := hb q k
    grind [update_apply]
  · have := own driver k p ho
    grind [update_apply]
  · have := hb p k
    grind [update_apply]

theorem joining_settle {p : Nat} :
    (s.settle peer joining).joining p = if p = peer then joining else s.joining p :=
  update_apply ..

theorem Kept.no_entry (h : s.Kept) (hp : s.joining peer ≠ .joined) (d : Bool) (k : Int) :
    s.owner d k ≠ some peer :=
  fun ho => hp (h.joined d k peer ho)

theorem Kept.settle (h : s.Kept) (hp : ∀ d k, s.owner d k ≠ some peer) :
    (s.settle peer joining).Kept := by
  refine ⟨⟨h.integral.distinct, h.integral.own, h.integral.apart⟩, h.bounded, fun d k p ho => ?_⟩
  rw [joining_settle, if_neg (by rintro rfl; exact hp d k ho)]
  exact h.joined d k p ho

theorem Kept.join (h : s.Kept) (hi : s.issued peer = some id) (hp : s.joining peer = .waiting) :
    ((s.handleConnection peer id driver).settle peer .joined).Kept := by
  have hfr : ∀ d k, s.owner d k ≠ some peer := h.no_entry (by simp [hp])
  obtain ⟨⟨hd, own, ha⟩, hb, joined⟩ := h
  have hen {d k p} (ho : (s.handleConnection peer id driver).owner d k = some p) :
      d = driver ∧ k = id ∧ p = peer ∨ p ≠ peer ∧ s.owner d k = some p := by
    have := hfr d k
    grind [owner_handleConnection]
  refine ⟨⟨hd, fun d k p ho => ?_, fun p k k' ht hf => ?_⟩, hb, fun d k p ho => ?_⟩
  · rcases hen ho with ⟨-, rfl, rfl⟩ | ⟨-, ho⟩
    · exact hi
    · exact own d k p ho
  · rcases hen ht with ⟨rfl, -, rfl⟩ | ⟨hn, ht⟩ <;> rcases hen hf with ⟨he, -, hp⟩ | ⟨hn', hf⟩
    · cases he
    · exact hn' rfl
    · exact hn hp
    · exact ha p k k' ht hf
  · rw [joining_settle]
    split
    · rfl
    · exact joined d k p ((hen ho).resolve_left fun he => absurd he.2.2 ‹_›).2

theorem Kept.leave (h : s.Kept) (hi : s.issued peer = some id) :
    ((s.handleDisconnect id).settle peer .over).Kept := by
  obtain ⟨⟨hd, own, ha⟩, hb, hj⟩ := h
  have he {d k p} (ho : (s.handleDisconnect id).owner d k = some p) : k ≠ id ∧
      s.owner d k = some p := by
    simpa using ho
  have hl : (s.handleDisconnect id).Kept :=
    ⟨⟨hd, fun d k p ho => own d k p (he ho).2, fun p k k' ht hf => ha p k k' (he ht).2 (he hf).2⟩,
      hb, fun d k p ho => hj d k p (he ho).2⟩
  refine hl.settle fun d k ho => ?_
  exact (he ho).1 (Option.some.inj ((own d k peer (he ho).2).symm.trans hi))

theorem Kept.step (h : s.Kept) (act : Nat × PeerEvent) (hn : s.nextClientId ≤ 4294967294) :
    (s.step act).Kept := by
  unfold ClientIds.step
  split
  next hp =>
    refine (h.issue hp hn).settle fun d k ho => ?_
    rw [issue_eq hn] at ho
    cases (h.integral.own d k _ ho).symm.trans hp
  · have hi := h.issue ‹_› hn
    dsimp only [addConnection]
    split
    · exact hi
    · exact ⟨⟨hi.integral.distinct, hi.integral.own, hi.integral.apart⟩, hi.bounded, hi.joined⟩
  · split
    · exact h.join ‹_› (‹_ ∧ _›).1
    · exact h
  · split
    · exact h.settle (h.no_entry (by simp [*]))
    · exact h
  · split
    · exact h.leave ‹_›
    · exact h.settle (h.no_entry ‹_›)
  · exact ⟨⟨h.integral.distinct, h.integral.own, h.integral.apart⟩, h.bounded, h.joined⟩
  · exact h

theorem Kept.spares (h : s.Kept) (act : Nat × PeerEvent) (hn : s.nextClientId ≤ 4294967294) :
    s.Spares act := by
  intro driver k p hp
  -- an entry at the peer's own id would be its own
  have ha (hi : s.issued act.1 = some k) : s.owner driver k ≠ some p := fun ho =>
    hp (h.integral.distinct p act.1 k (h.integral.own driver k p ho) hi)
  unfold ClientIds.step
  split
  · rw [issue_eq hn]
    rfl
  · dsimp only [addConnection]
    rw [issue_eq hn]
    split <;> rfl
  next hi =>
    split
    · change _ ↔ (handleConnection ..).owner driver k = some p
      rw [owner_handleConnection]
      grind
    · rfl
  · split <;> rfl
  next hi =>
    split
    · change _ ↔ (handleDisconnect ..).owner driver k = some p
      rw [owner_handleDisconnect]
      grind
    · rfl
  · rfl
  · rfl

theorem nextClientId_step (act : Nat × PeerEvent) :
    (s.step act).nextClientId ≤ s.nextClientId + (opens act).toNat := by
  have hi : (s.issue act.1).nextClientId ≤ s.nextClientId + 1 := by
    dsimp only [issue, createClientId]
    split <;> simp
  unfold step
  split
  · rwa [show opens act = true by simp [opens, *]]
  · rw [show opens act = true by simp [opens, *]]
    dsimp only [addConnection]
    split <;> exact hi
  all_goals first | exact Nat.le_add_right .. | (split <;> exact Nat.le_add_right ..)

theorem along_room {acts : List (Nat × PeerEvent)}
    (h : s.nextClientId + acts.countP opens < 2 ^ 32 - 2) :
    Along step (fun s _ => s.nextClientId ≤ 4294967294) s acts := by
  induction acts generalizing s with
  | nil => trivial
  | cons act acts ih =>
    have hs := nextClientId_step (s := s) act
    rw [List.countP_cons] at h
    refine ⟨by omega, ih ?_⟩
    cases ho : opens act <;> simp_all <;> omega

theorem identity_integral (acts : List (Nat × PeerEvent)) (hc : acts.countP opens < 2 ^ 32 - 2) :
    Throughout step Integral initial acts ∧ Along step Spares initial acts := by
  have hr : Along step (fun s _ => s.nextClientId ≤ 4294967294) initial acts :=
    along_room (by simpa [initial] using hc)
  have hi : initial.Kept := ⟨⟨nofun, nofun, nofun⟩, nofun, nofun⟩
  refine ⟨throughout_mono (fun _ h => h.integral)
    (throughout_of_along (fun s a h hn => h.step a hn) hi hr), ?_⟩
  exact along_of_along (fun s a h hn => ⟨h.step a hn, h.spares a hn⟩) hi hr

theorem identity_integral_pair :
    let acts := [(0, .connected), (1, .connectionCreated), (0, .message none),
      (0, .message (some (.obj [("event", .str "Register"), ("data", .obj [("id", .ofInt 1)])]))),
      (0, .closed)]
    Throughout step Integral initial acts ∧ Along step Spares initial acts :=
  identity_integral _ (by decide)

end ClientIds

end DebugRouter.Daemon
