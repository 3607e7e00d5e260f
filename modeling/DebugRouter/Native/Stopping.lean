import DebugRouter.Native.AcceptLoop

/-!
`StopServer` against the accept thread. Every open socket has an owner: `socket_fd_`, or a thread that
is about to store or to close it. `StopServer` closes what it finds in `socket_fd_`; a socket that
is stored there afterwards is closed by nobody.
-/
namespace DebugRouter.Native

open Library List AcceptPoint StopPoint

namespace AcceptPoint

def opening : AcceptPoint → Bool
  | loadFd | createSocket | storeFd _ => true
  | waitRunning | setsockopt _ | bind _ _ | listen _ _ | reloadFd | accept _ | blocked _ | storeClient
  | exchangeFd _ | close _ _ | finish => false

def preparing : AcceptPoint → Bool
  | loadFd | createSocket | storeFd _ | setsockopt _ | bind _ _ | listen _ _ => true
  | waitRunning | reloadFd | accept _ | blocked _ | storeClient | exchangeFd _ | close _ _
  | finish => false

def fd? : AcceptPoint → Option Fd
  | setsockopt fd | bind fd _ | listen fd _ | blocked fd => some fd
  | accept fd => fd
  | waitRunning | loadFd | createSocket | storeFd _ | reloadFd | storeClient | exchangeFd _
  | close _ _
  | finish => none

/-- The descriptor the thread is about to store or to close. -/
def owned? : AcceptPoint → Option Fd
  | storeFd fd | close fd _ => fd
  | waitRunning | loadFd | createSocket | setsockopt _ | bind _ _ | listen _ _ | reloadFd | accept _
  | blocked _ | storeClient | exchangeFd _ | finish => none

/-- Here `socket_fd_` is invalid. -/
def absent : AcceptPoint → Bool
  | createSocket | storeFd _ | close _ _ => true
  | waitRunning | loadFd | setsockopt _ | bind _ _ | listen _ _ | reloadFd | accept _ | blocked _
  | storeClient | exchangeFd _ | finish => false

/-- Here `socket_fd_` is invalid or its socket listens. -/
def settled : AcceptPoint → Bool
  | setsockopt _ | bind _ _ | listen _ _ | exchangeFd _ => false
  | waitRunning | loadFd | createSocket | storeFd _ | reloadFd | accept _ | blocked _ | storeClient
  | close _ _ | finish => true

/-- The moves that change nothing else, on one descriptor. -/
inductive Passes : AcceptPoint → AcceptPoint → Prop
  | first (fd : Fd) (port : Nat) : Passes (setsockopt fd) (bind fd port)
  | next (fd : Fd) (port : Nat) : Passes (bind fd port) (bind fd (port + 1))
  | bound (fd : Fd) (port : Nat) : Passes (bind fd port) (listen fd port)
  | waits (fd : Fd) : Passes (accept (some fd)) (blocked fd)
  | accepted (fd : Fd) : Passes (blocked fd) storeClient

end AcceptPoint

namespace StopPoint

def owned? : StopPoint → Option Fd
  | close fd => fd
  | idle | loadFd | shutdown _ | exchangeFd | waitServing | clearClients => none

def exchanged : StopPoint → Bool
  | close _ | waitServing | clearClients => true
  | idle | loadFd | shutdown _ | exchangeFd => false

def shutDown : StopPoint → Bool
  | exchangeFd | close _ | waitServing | clearClients => true
  | idle | loadFd | shutdown _ => false

theorem exchanged_of_owned {pt : StopPoint} {fd : Fd} (h : pt.owned? = some fd) :
    pt.exchanged = true := by
  cases pt with
  | close _ => rfl
  | idle | loadFd | shutdown _ | exchangeFd | waitServing | clearClients => cases h

end StopPoint

namespace AcceptLoop
variable {p : Platform} {s : AcceptLoop}

structure Owned (s : AcceptLoop) : Prop where
  owner : ∀ fd, (s.sockets fd).closed = false →
    s.socketFd = some fd ∨ s.thread.owned? = some fd ∨ s.stop.owned? = some fd
  held : ∀ fd, s.socketFd = some fd ∨ s.thread.owned? = some fd → (s.sockets fd).closed = false
  apart : ∀ fd, s.thread.owned? = some fd → s.stop.owned? ≠ some fd
  absent : s.thread.absent = true → s.socketFd = none
  serving : s.isServing = true ↔ s.thread ≠ .waitRunning
  stopping : s.stop ≠ .idle → s.server.running = false
  exchanged : s.stop.exchanged = true → s.socketFd = none ∧ s.thread.opening = false
  worked : s.stop.exchanged = false → ∀ fd, s.thread.fd? = some fd → s.socketFd = some fd
  listens : s.thread.settled = true → ∀ fd, s.socketFd = some fd → (s.sockets fd).listening = true
  rests : s.stop = .clearClients → s.thread = .waitRunning

theorem owned_initial : initial.Owned := by
  constructor
  case serving => simp [initial]
  case stopping => exact fun stopping => absurd rfl stopping
  case owner | held | apart | absent | exchanged | worked | listens | rests =>
    simp [initial, Socket.absent, AcceptPoint.owned?, AcceptPoint.absent, StopPoint.exchanged, fd?]

theorem Owned.before_exchange (how : s.Owned) (ho : s.thread.opening = true) :
    s.stop.exchanged = false := by
  by_contra exchanged
  have past := (how.exchanged (by simpa using exchanged)).2
  simp [ho] at past

/- The accept thread -/

theorem Owned.goTo (ho : s.Owned) {pt : AcceptPoint} (hbu : s.thread ≠ .waitRunning)
    (hst : pt ≠ .waitRunning) (hf : s.thread.owned? = none) (hb : pt.owned? = none)
    (absent : pt.absent = true → s.socketFd = none)
    (hop : pt.opening = true → s.thread.opening = true)
    (hw : ∀ fd, pt.fd? = some fd → s.thread.fd? = some fd ∨ s.socketFd = some fd)
    (hs : pt.settled = true → s.thread.settled = true) : Owned { s with thread := pt } := by
  constructor
  case owner => simpa [hb, hf] using ho.owner
  case held => simpa [hb, hf] using ho.held
  case apart => simp [hb]
  case absent => exact absent
  case serving => simpa [hst, hbu] using ho.serving
  case stopping => exact ho.stopping
  case exchanged =>
    intro exchanged
    obtain ⟨hc, hp⟩ := ho.exchanged exchanged
    refine ⟨hc, Bool.eq_false_iff.mpr fun hope => ?_⟩
    simp [hop hope] at hp
  case worked =>
    intro hu fd works'
    rcases hw fd works' with hbe | stored
    · exact ho.worked hu fd hbe
    · exact stored
  case listens => exact fun hse => ho.listens (hs hse)
  case rests => exact fun hcl => absurd (ho.rests hcl) hbu

theorem Owned.begin (ho : s.Owned) (hh : s.thread = .waitRunning) (hr : s.server.running = true) :
    Owned { s with isServing := true, thread := .loadFd } := by
  have hi : s.stop = .idle := by
    by_contra hb
    simp [ho.stopping hb] at hr
  obtain ⟨own, held, -, -, -, stopping, -, -, listens, -⟩ := ho
  constructor
  case owner => simpa [hh, AcceptPoint.owned?] using own
  case held => simpa [hh, AcceptPoint.owned?] using held
  case stopping => exact stopping
  case listens => simpa [hh, settled] using listens
  case apart | absent | serving | worked => simp [AcceptPoint.owned?, AcceptPoint.absent, fd?]
  case exchanged | rests => simp [hi, StopPoint.exchanged]

theorem Owned.create (how : s.Owned) (hh : s.thread = .createSocket) :
    Owned { s with
      sockets := Function.update s.sockets s.nextFd .fresh
      nextFd := s.nextFd + 1
      thread := .storeFd (some s.nextFd) } := by
  have hi : s.socketFd = none := how.absent (by simp [hh, AcceptPoint.absent])
  have hb : s.stop.exchanged = false := how.before_exchange (by simp [hh, opening])
  constructor
  case owner =>
    intro fd ho
    by_cases new : fd = s.nextFd
    · simp [new, AcceptPoint.owned?]
    · simp only [Function.update_of_ne new] at ho
      rcases how.owner fd ho with hs | owns | owns
      · exact .inl hs
      · simp [hh, AcceptPoint.owned?] at owns
      · exact .inr (.inr owns)
  case held =>
    rintro fd (hs | created)
    · simp [hi] at hs
    · cases created
      simp [Socket.fresh]
  case apart =>
    intro fd _ owns
    simp [StopPoint.exchanged_of_owned owns] at hb
  case absent => exact fun _ => hi
  case serving => simpa [hh] using how.serving
  case stopping => exact how.stopping
  case exchanged => simp [hb]
  case worked => simp [fd?]
  case listens => simp [hi]
  case rests => simpa [hh] using how.rests

theorem Owned.store (how : s.Owned) {fd : Fd} (hh : s.thread = .storeFd (some fd)) :
    Owned { s with socketFd := some fd, thread := .setsockopt fd } := by
  have before : s.stop.exchanged = false := how.before_exchange (by simp [hh, opening])
  have opened : (s.sockets fd).closed = false := how.held fd (.inr (by simp [hh, AcceptPoint.owned?]))
  constructor
  case owner =>
    intro o ha
    rcases how.owner o ha with hs | owns | owns
    · simp [how.absent (by simp [hh, AcceptPoint.absent])] at hs
    · simp only [hh, AcceptPoint.owned?] at owns
      exact .inl owns
    · exact .inr (.inr owns)
  case held =>
    rintro o (hs | owns)
    · cases hs
      exact opened
    · cases owns
  case serving => simpa [hh] using how.serving
  case stopping => exact how.stopping
  case exchanged => simp [before]
  case worked => simp [fd?]
  case rests => simpa [hh] using how.rests
  case apart | absent | listens => simp [AcceptPoint.owned?, AcceptPoint.absent, settled]

variable {srv : UsbServer} {notified : List String} {i : String} {a : LoopAct}

theorem Owned.done (ho : s.Owned)
    (hb : s.thread ≠ .waitRunning) (hf : s.thread.owned? = none) (hs : s.thread.settled = true)
    (hr : srv.running = s.server.running) :
    Owned { s with server := srv, thread := .finish, notified := notified } := by
  obtain ⟨own, held, -, -, serving, stopping, exchanged, -, listens, rests⟩ := ho
  have bare : AcceptPoint.finish.owned? = none := rfl
  constructor
  case owner => simpa [hf, bare] using own
  case held => simpa [hf, bare] using held
  case serving => simpa [hb] using serving
  case stopping => simpa [hr] using stopping
  case exchanged => exact fun hp => ⟨(exchanged hp).1, rfl⟩
  case listens => exact fun _ => listens hs
  case rests => exact fun hc => absurd (rests hc) hb
  case apart | absent | worked => simp [AcceptPoint.owned?, AcceptPoint.absent, fd?]

theorem Owned.listen (ho : s.Owned) {fd : Fd} {port : Nat} (hh : s.thread = .listen fd port) :
    Owned { s with
      sockets := s.update (some fd) Socket.listen
      thread := .reloadFd
      notified := notified } := by
  have hc : ∀ o, (s.update (some fd) Socket.listen o).closed = (s.sockets o).closed :=
    s.update_keeps Socket.closed Socket.listen (fun _ => rfl) (some fd)
  obtain ⟨own, held, -, -, serving, stopping, exchanged, worked, -, rests⟩ := ho
  constructor
  case owner => simpa [hc, hh, AcceptPoint.owned?] using own
  case held => simpa [hc, hh, AcceptPoint.owned?] using held
  case serving => simpa [hh] using serving
  case stopping => exact stopping
  case exchanged => exact fun hp => ⟨(exchanged hp).1, rfl⟩
  case listens =>
    intro _ o hs
    have same : o = fd := by
      cases hu : s.stop.exchanged with
      | false =>
        have found := worked hu fd (by simp [hh, fd?])
        exact Option.some.inj (hs.symm.trans found)
      | true => cases (exchanged hu).1.symm.trans hs
    simp [same, Socket.listen]
  case rests => simpa [hh] using rests
  case apart | absent | worked => simp [AcceptPoint.owned?, AcceptPoint.absent, fd?]

theorem Owned.exchange (how : s.Owned) (hh : s.thread = .exchangeFd i) :
    Owned { s with socketFd := none, thread := .close s.socketFd i } := by
  constructor
  case owner =>
    intro fd ho
    rcases how.owner fd ho with hs | owns | owns
    · exact .inr (.inl hs)
    · simp [hh, AcceptPoint.owned?] at owns
    · exact .inr (.inr owns)
  case held => exact fun fd ht => how.held fd (.inl (ht.resolve_left (by simp)))
  case apart =>
    intro fd hs owns
    have hc := (how.exchanged (StopPoint.exchanged_of_owned owns)).1
    cases hc.symm.trans hs
  case absent => simp
  case serving => simpa [hh] using how.serving
  case stopping => exact how.stopping
  case exchanged => simp [opening]
  case worked => simp [fd?]
  case listens => simp
  case rests => simpa [hh] using how.rests

theorem Owned.close (how : s.Owned) {fd : Option Fd} (hh : s.thread = .close fd i) : Owned { s with
      sockets := s.update fd Socket.close
      thread := .finish
      notified := s.notified ++ [i] } := by
  have hi : s.socketFd = none := how.absent (by simp [hh, AcceptPoint.absent])
  constructor
  case owner =>
    intro o ho
    obtain ⟨hd, ha⟩ := s.open_update_close.mp ho
    rcases how.owner o ha with hs | owns | owns
    · exact .inl hs
    · simp [hh, AcceptPoint.owned?, hd] at owns
    · exact .inr (.inr owns)
  case held => simp [hi, AcceptPoint.owned?]
  case serving => simpa [hh] using how.serving
  case stopping => exact how.stopping
  case exchanged => simp [hi, opening]
  case listens => simp [hi]
  case rests => simpa [hh] using how.rests
  case apart | absent | worked => simp [AcceptPoint.owned?, AcceptPoint.absent, fd?]

theorem Owned.finish (ho : s.Owned) (hh : s.thread = .finish) :
    Owned { s with isServing := false, thread := .waitRunning } := by
  obtain ⟨own, held, -, -, -, stopping, exchanged, -, listens, -⟩ := ho
  constructor
  case owner => simpa [hh, AcceptPoint.owned?] using own
  case held => simpa [hh, AcceptPoint.owned?] using held
  case stopping => exact stopping
  case exchanged => exact fun hp => ⟨(exchanged hp).1, rfl⟩
  case listens => simpa [hh, settled] using listens
  case apart | absent | serving | worked | rests => simp [AcceptPoint.owned?, AcceptPoint.absent, fd?]

theorem Owned.pass (ho : s.Owned) {pt next : AcceptPoint} (hh : s.thread = pt)
    (hp : pt.Passes next) : Owned { s with thread := next } := by
  cases hp <;> apply ho.goTo <;>
    simp [hh, AcceptPoint.owned?, AcceptPoint.absent, opening, fd?, settled]

theorem Owned.fail (ho : s.Owned) {pt : AcceptPoint} (hh : s.thread = pt)
    (hb : pt ≠ .waitRunning) (hf : pt.owned? = none) (i : String) :
    Owned { s with thread := .exchangeFd i } := by
  subst hh
  apply ho.goTo hb _ hf
  all_goals simp [AcceptPoint.owned?, AcceptPoint.absent, opening, fd?,
    settled]

theorem Owned.serve (h : s.Owned) (answer : Answer) : (s.serve p answer).Owned := by
  unfold AcceptLoop.serve
  cases hh : s.thread with
  | waitRunning =>
    dsimp only
    split
    next hr => exact h.begin hh hr
    · exact h
  | loadFd =>
    dsimp only
    split
    next hi =>
      apply h.goTo <;> simp [hh, hi, AcceptPoint.owned?, opening, fd?,
        settled]
    · apply h.goTo <;> simp [hh, AcceptPoint.owned?, opening, AcceptPoint.absent,
        fd?, settled]
  | createSocket =>
    dsimp only
    split
    · exact h.create hh
    · apply h.goTo
      case absent => exact fun _ => h.absent (by simp [hh, AcceptPoint.absent])
      all_goals simp [hh, AcceptPoint.owned?, opening, fd?, settled]
  | storeFd fd =>
    cases fd with
    | none =>
      have hi : s.socketFd = none := h.absent (by simp [hh, AcceptPoint.absent])
      dsimp only
      rw [← hi]
      apply h.done <;> simp [hh, AcceptPoint.owned?, settled]
    | some fd => exact h.store hh
  | setsockopt fd =>
    dsimp only
    split
    · split
      · exact h.pass hh (.first fd p.startPort)
      · exact h.pass hh (.first fd _)
      · exact h.fail hh nofun rfl _
    · exact h.fail hh nofun rfl _
  | bind fd port =>
    dsimp only
    split
    · exact h.pass hh (.bound fd port)
    · split
      · exact h.pass hh (.next fd port)
      · exact h.fail hh nofun rfl _
  | listen fd port =>
    dsimp only
    split
    · exact h.listen hh
    · exact h.fail hh nofun rfl _
  | reloadFd =>
    apply h.goTo <;> simp [hh, AcceptPoint.owned?, AcceptPoint.absent, opening,
      fd?, settled]
  | accept fd =>
    cases fd with
    | none => exact h.fail hh nofun rfl _
    | some fd =>
      dsimp only
      split
      · exact h.pass hh (.waits fd)
      · exact h.fail hh nofun rfl _
  | blocked fd =>
    dsimp only
    split
    · exact h.pass hh (.accepted fd)
    · exact h.fail hh nofun rfl _
  | storeClient => apply h.done <;> simp [hh, AcceptPoint.owned?, settled, UsbServer.accept]
  | exchangeFd i => exact h.exchange hh
  | close fd i => exact h.close hh
  | finish => exact h.finish hh

/- `StopServer` -/

theorem Owned.stopTo (ho : s.Owned) {pt : StopPoint} {sockets : Fd → Socket}
    (hc : ∀ fd, (sockets fd).closed = (s.sockets fd).closed)
    (hl : ∀ fd, (sockets fd).listening = (s.sockets fd).listening)
    (hf : s.stop.owned? = none) (hb : pt.owned? = none) (hs : pt.exchanged = s.stop.exchanged)
    (hbu : s.stop ≠ .idle) (rests : pt = .clearClients → s.thread = .waitRunning) :
    Owned { s with sockets := sockets, stop := pt } := by
  constructor
  case owner => simpa [hc, hf, hb] using ho.owner
  case held => simpa [hc] using ho.held
  case apart => simp [hb]
  case absent => exact ho.absent
  case serving => exact ho.serving
  case stopping => exact fun _ => ho.stopping hbu
  case exchanged => exact fun hp => ho.exchanged (hs ▸ hp)
  case worked => exact fun hp => ho.worked (hs ▸ hp)
  case listens => simpa [hl] using ho.listens
  case rests => exact rests

theorem Owned.stopExchange (how : s.Owned) (hh : s.stop = .exchangeFd)
    (hti : s.thread.opening = false) :
    Owned { s with socketFd := none, stop := .close s.socketFd } := by
  constructor
  case owner =>
    intro fd ho
    rcases how.owner fd ho with hs | owns | owns
    · exact .inr (.inr hs)
    · exact .inr (.inl owns)
    · simp [hh, StopPoint.owned?] at owns
  case held => exact fun fd ht => how.held fd (.inr (ht.resolve_left (by simp)))
  case apart =>
    intro fd owns hs
    have ht : s.socketFd = some fd := hs
    -- a thread that stores or closes a socket finds `socket_fd_` invalid
    cases hp : s.thread with
    | storeFd _ | close _ _ => simp [how.absent (by simp [hp, AcceptPoint.absent])] at ht
    | waitRunning | loadFd | createSocket | setsockopt _ | bind _ _ | listen _ _ | reloadFd | accept _
    | blocked _ | storeClient | exchangeFd _ | finish => simp [hp, AcceptPoint.owned?] at owns
  case absent => simp
  case serving => exact how.serving
  case stopping => exact fun _ => how.stopping (by simp [hh])
  case exchanged => exact fun _ => ⟨rfl, hti⟩
  case worked | listens | rests => simp [StopPoint.exchanged]

theorem Owned.stopClose (how : s.Owned) {fd : Option Fd} (hh : s.stop = .close fd) :
    Owned { s with sockets := s.update fd Socket.close, stop := .waitServing } := by
  have ⟨hi, hp⟩ := how.exchanged (by simp [hh, StopPoint.exchanged])
  constructor
  case owner =>
    intro other ho
    obtain ⟨hd, ha⟩ := s.open_update_close.mp ho
    rcases how.owner other ha with hs | owns | owns
    · exact .inl hs
    · exact .inr (.inl owns)
    · simp [hh, StopPoint.owned?, hd] at owns
  case held =>
    rintro other (hs | owns)
    · simp [hi] at hs
    · have hd : fd ≠ some other := by simpa [hh, StopPoint.owned?] using how.apart other owns
      exact s.open_update_close.mpr ⟨hd, how.held other (.inr owns)⟩
  case absent => exact how.absent
  case serving => exact how.serving
  case stopping => exact fun _ => how.stopping (by simp [hh])
  case exchanged => exact fun _ => ⟨hi, hp⟩
  case listens => simp [hi]
  case apart | worked | rests => simp [StopPoint.owned?, StopPoint.exchanged]

theorem Owned.clearClients (ho : s.Owned) (hh : s.stop = .clearClients) (srv : UsbServer) :
    Owned { s with server := srv, stop := .idle } := by
  have rests := ho.rests hh
  obtain ⟨own, held, -, absent, serving, -, exchanged, -, listens, -⟩ := ho
  constructor
  case owner => simpa [hh, StopPoint.owned?] using own
  case held => exact held
  case absent => exact absent
  case serving => exact serving
  case listens => exact listens
  case worked => simp [rests, fd?]
  case apart | stopping | exchanged | rests => simp [StopPoint.owned?, StopPoint.exchanged]

theorem Owned.stopStep (ho : s.Owned) (ht : s.stop = .exchangeFd → s.thread.opening = false) :
    s.stopStep.Owned := by
  unfold AcceptLoop.stopStep
  cases hh : s.stop with
  | idle => exact ho
  | loadFd => apply ho.stopTo <;> simp [hh, StopPoint.owned?, StopPoint.exchanged]
  | shutdown fd =>
    apply ho.stopTo (s.update_keeps Socket.closed Socket.shutdown (fun _ => rfl) fd)
      (s.update_keeps Socket.listening Socket.shutdown (fun _ => rfl) fd) <;>
      simp [hh, StopPoint.owned?, StopPoint.exchanged]
  | exchangeFd => exact ho.stopExchange hh (ht hh)
  | close fd => exact ho.stopClose hh
  | waitServing =>
    dsimp only
    split
    · exact ho
    next hf =>
      apply ho.stopTo
      case rests =>
        intro _
        by_contra hb
        exact hf (ho.serving.mpr hb)
      all_goals simp [hh, StopPoint.owned?, StopPoint.exchanged]
  | clearClients => exact ho.clearClients hh _

theorem Owned.idle (ho : s.Owned) (hh : s.stop = .idle) {pt : StopPoint}
    (next : pt = .idle ∨ pt = .loadFd ∧ srv.running = false) :
    Owned { s with server := srv, stop := pt } := by
  have bare : pt.owned? = none ∧ pt.exchanged = false ∧ pt ≠ .clearClients := by
    rcases next with rfl | ⟨rfl, -⟩ <;> simp [StopPoint.owned?, StopPoint.exchanged]
  have free : s.stop.owned? = none ∧ s.stop.exchanged = false := by
    simp [hh, StopPoint.owned?, StopPoint.exchanged]
  obtain ⟨own, held, -, absent, serving, -, -, worked, listens, -⟩ := ho
  constructor
  case owner => simpa [free, bare] using own
  case held => exact held
  case absent => exact absent
  case serving => exact serving
  case listens => exact listens
  case worked => simpa [free, bare] using worked
  case stopping =>
    intro hbu
    rcases next with rfl | ⟨-, hs⟩
    · exact absurd rfl hbu
    · exact hs
  case apart | exchanged | rests => simp [bare]

/- The way out of `accept` -/

/-- A blocked `accept` returns: after the `shutdown` the thread is in no other way blocked. -/
structure Woken (p : Platform) (s : AcceptLoop) : Prop where
  loaded : p.closeWakes = false → ∀ fd, s.stop = .shutdown fd →
    s.thread.preparing = false ∧ ∀ other, s.socketFd = some other → fd = some other
  shut : p.closeWakes = false → s.stop.shutDown = true → s.thread.preparing = false ∧
    ∀ fd, s.thread.fd? = some fd ∨ s.thread.settled = true ∧ s.socketFd = some fd →
      (s.sockets fd).shut = true

theorem woken_initial : initial.Woken p := by
  constructor <;> simp [initial, shutDown]

/-- What a step of the thread can do once the socket listens, while nobody starts the server. -/
structure Retires (s s' : AcceptLoop) : Prop where
  preparing : s'.thread.preparing = false
  stop : s'.stop = s.stop
  stored : ∀ fd, s'.socketFd = some fd → s.socketFd = some fd
  settled : ∀ fd, s'.socketFd = some fd → s'.thread.settled = true → s.thread.settled = true
  shut : ∀ fd, (s.sockets fd).shut = true → (s'.sockets fd).shut = true
  works : ∀ fd, s'.thread.fd? = some fd →
    s.thread.fd? = some fd ∨ s.thread.settled = true ∧ s.socketFd = some fd

theorem retires_goTo {s' : AcceptLoop} (settled : s.thread.settled = true)
    (preparing : s'.thread.preparing = false) (stop : s'.stop = s.stop)
    (hs : s'.socketFd = s.socketFd) (hso : s'.sockets = s.sockets)
    (works : ∀ fd, s'.thread.fd? = some fd → s.thread.fd? = some fd ∨ s.socketFd = some fd) :
    s.Retires s' := by
  constructor
  case preparing => exact preparing
  case stop => exact stop
  case stored => exact fun fd => hs ▸ id
  case settled => exact fun _ _ _ => settled
  case shut => exact fun fd => hso ▸ id
  case works => exact fun fd hf => (works fd hf).imp_right fun stored => ⟨settled, stored⟩

theorem retires_serve (hs : s.server.running = false) (hp : s.thread.preparing = false)
    (answer : Answer) : s.Retires (s.serve p answer) := by
  unfold AcceptLoop.serve
  cases hh : s.thread with
  | loadFd | createSocket | storeFd _ | setsockopt _ | bind _ _ | listen _ _ =>
    simp [hh, preparing] at hp
  | waitRunning =>
    simp only [hs, Bool.false_eq_true, if_false]
    apply retires_goTo <;> simp [hh, settled, preparing, fd?]
  | reloadFd | storeClient | finish => apply retires_goTo <;> simp [hh, settled, preparing, fd?]
  | accept fd =>
    cases fd with
    | none => apply retires_goTo <;> simp [hh, settled, preparing, fd?]
    | some fd =>
      dsimp only
      split <;> apply retires_goTo <;> simp [hh, settled, preparing, fd?]
  | blocked fd =>
    dsimp only
    split <;> apply retires_goTo <;> simp [hh, settled, preparing, fd?]
  | exchangeFd i => constructor <;> simp [preparing, fd?]
  | close fd i =>
    constructor
    case shut =>
      intro o shut
      exact (s.update_keeps Socket.shut Socket.close (fun _ => rfl) fd o).trans shut
    all_goals simp [hh, preparing, fd?, settled]

theorem serve_stop (answer : Answer) : (s.serve p answer).stop = s.stop := by
  unfold AcceptLoop.serve
  repeat' split
  all_goals rfl

theorem Woken.serve (hw : s.Woken p) (ho : s.Owned) (answer : Answer) :
    (s.serve p answer).Woken p := by
  constructor
  case loaded =>
    intro hl fd hh
    rw [serve_stop] at hh
    obtain ⟨hp, loaded⟩ := hw.loaded hl fd hh
    have hr := retires_serve (p := p) (ho.stopping (by simp [hh])) hp answer
    exact ⟨hr.preparing, fun o hs => loaded o (hr.stored o hs)⟩
  case shut =>
    intro hl hsh
    rw [serve_stop] at hsh
    obtain ⟨hp, shut⟩ := hw.shut hl hsh
    have busy : s.stop ≠ .idle := by
      intro hi
      simp [hi, StopPoint.shutDown] at hsh
    have hr := retires_serve (p := p) (ho.stopping busy) hp answer
    refine ⟨hr.preparing, fun fd hf => hr.shut fd (shut fd ?_)⟩
    rcases hf with hwo | ⟨hse, hs⟩
    · exact hr.works fd hwo
    · exact .inr ⟨hr.settled fd hs hse, hr.stored fd hs⟩

theorem Woken.stopStep (hw : s.Woken p) (ho : s.Owned)
    (ht : p.closeWakes = false → s.stop = .loadFd → s.thread.preparing = false) :
    s.stopStep.Woken p := by
  unfold AcceptLoop.stopStep
  cases here : s.stop with
  | idle => exact hw
  | loadFd =>
    constructor
    case loaded =>
      intro linux fd loads
      cases loads
      exact ⟨ht linux here, fun _ stored => stored⟩
    case shut => simp [shutDown]
  | shutdown fd =>
    constructor
    case loaded => simp
    case shut =>
      intro linux _
      obtain ⟨past, loaded⟩ := hw.loaded linux fd here
      refine ⟨past, fun other found => ?_⟩
      have ⟨settled, stored⟩ : s.thread.settled = true ∧ s.socketFd = some other := by
        rcases found with works | both
        · refine ⟨?_, ho.worked (by simp [here, exchanged]) other works⟩
          cases point : s.thread <;> simp_all [fd?, settled, preparing]
        · exact both
      rw [loaded other stored]
      simp [Socket.shutdown, ho.listens settled other stored, ho.held other (.inl stored)]
  | exchangeFd =>
    constructor
    case loaded => simp
    case shut =>
      intro linux _
      obtain ⟨past, shut⟩ := hw.shut linux (by simp [here, shutDown])
      refine ⟨past, fun fd found => shut fd (.inl (found.resolve_right (by simp)))⟩
  | close fd =>
    constructor
    case loaded => simp
    case shut =>
      intro linux _
      obtain ⟨past, shut⟩ := hw.shut linux (by simp [here, shutDown])
      refine ⟨past, fun other found => ?_⟩
      exact (s.update_keeps Socket.shut Socket.close (fun _ => rfl) fd other).trans (shut other found)
  | waitServing =>
    dsimp only
    split
    · exact hw
    · constructor
      case loaded => simp
      case shut => exact fun linux _ => hw.shut linux (by simp [here, shutDown])
  | clearClients => constructor <;> simp [shutDown]

/- Runs -/

/-- `StopServer` misses the accept thread: it exchanges `socket_fd_` while the thread is about to
store a socket there or, where only `shutdown` ends a blocked `accept`, it looks for the socket to
shut down before that listens. -/
def Misses (p : Platform) (s : AcceptLoop) (a : LoopAct) : Prop :=
  match a with
  | .stop => s.stop = .exchangeFd ∧ s.thread.opening = true ∨
      p.closeWakes = false ∧ s.stop = .loadFd ∧ s.thread.preparing = true
  | .startServer | .stopServer | .serve _ | .task _ => False

instance (s : AcceptLoop) (a : LoopAct) : Decidable (s.Misses p a) :=
  match a with
  | .stop => inferInstanceAs (Decidable (_ ∨ _))
  | .startServer | .stopServer | .serve _ | .task _ => inferInstanceAs (Decidable False)

/-- The accept thread is in `accept`, and only a client ends that. -/
def Blocked (p : Platform) (s : AcceptLoop) : Prop :=
  ∃ fd, s.thread = .blocked fd ∧ s.released p fd = false

/-- `StopServer` has closed what it found and waits for `is_serving_`, while the accept thread is
blocked in `accept` or gets there by steps of its own. -/
def Stuck (p : Platform) (s : AcceptLoop) : Prop :=
  s.stop = .waitServing ∧ ∃ answers : List Answer, Blocked p (answers.foldl (AcceptLoop.serve p) s)

theorem not_blocked (how : s.Owned) (hwo : s.Woken p) (hwai : s.stop = .waitServing) :
    ¬ s.Blocked p := by
  rintro ⟨fd, hh, hw⟩
  have ⟨hi, _⟩ := how.exchanged (by simp [hwai, StopPoint.exchanged])
  have hc : (s.sockets fd).closed = true := by
    by_contra ho
    have := how.owner fd (by simpa using ho)
    simp [hi, hh, hwai, AcceptPoint.owned?, StopPoint.owned?] at this
  cases hwa : p.closeWakes with
  | true => simp [released, hc, hwa] at hw
  | false =>
    have hs := (hwo.shut hwa (by simp [hwai, shutDown])).2 fd (.inl (by simp [hh, fd?]))
    simp [released, hs] at hw

theorem not_stuck (ho : s.Owned) (hwo : s.Woken p) : ¬ s.Stuck p := by
  rintro ⟨hw, answers, hb⟩
  induction answers generalizing s with
  | nil => exact not_blocked ho hwo hw hb
  | cons answer xs ih =>
    apply ih (ho.serve answer) (hwo.serve ho answer) _ hb
    rw [serve_stop, hw]

theorem Owned.step (how : s.Owned) (ht : ¬ s.Misses p a) : (s.step p a).Owned := by
  cases a with
  | startServer | task task =>
    simp only [AcceptLoop.step]
    split
    next hi => exact how.idle hi (.inl hi)
    · exact how
  | stopServer =>
    simp only [AcceptLoop.step]
    split
    next hi => exact how.idle hi (.inr ⟨rfl, rfl⟩)
    · exact how
  | stop =>
    apply how.stopStep
    intro hh
    by_contra ho
    exact ht (.inl ⟨hh, by simpa using ho⟩)
  | serve answer => exact how.serve answer

theorem Woken.step (hw : s.Woken p) (ho : s.Owned) (ht : ¬ s.Misses p a) :
    (s.step p a).Woken p := by
  have hc : ∀ {s' : AcceptLoop}, s'.stop = .idle ∨ s'.stop = .loadFd → s'.Woken p := by
    rintro s' (hi | begun) <;> constructor <;> simp [*, shutDown]
  cases a with
  | startServer | task task =>
    simp only [AcceptLoop.step]
    split
    next hi => exact hc (.inl hi)
    · exact hw
  | stopServer =>
    simp only [AcceptLoop.step]
    split
    · exact hc (.inr rfl)
    · exact hw
  | stop =>
    apply hw.stopStep ho
    intro hl hh
    by_contra hp
    exact ht (.inr ⟨hl, hh, by simpa using hp⟩)
  | serve answer => exact hw.serve ho answer

/-- `StopServer` returns with `socket_fd_` invalid and no client in a slot. -/
def ReturnsClean (p : Platform) (s : AcceptLoop) (a : LoopAct) : Prop :=
  s.stop = .clearClients → a = .stop → (s.step p a).socketFd = none ∧
    (s.step p a).server.usbClient = none ∧ (s.step p a).server.tempUsbClient = none

theorem Owned.returnsClean (h : s.Owned) (a : LoopAct) : s.ReturnsClean p a := by
  rintro hc rfl
  have ⟨hi, _⟩ := h.exchanged (by simp [hc, StopPoint.exchanged])
  simp [AcceptLoop.step, AcceptLoop.stopStep, hc, hi]

theorem stop_leaves_no_listener (p : Platform) (acts : List LoopAct)
    (timely : Along (step p) (fun s a => ¬ s.Misses p a) initial acts) :
    Throughout (step p) (fun s => ¬ s.Stuck p) initial acts ∧
      Along (step p) (ReturnsClean p) initial acts := by
  have hi : Throughout (step p) (fun s => s.Owned ∧ s.Woken p) initial acts := by
    apply throughout_of_along _ ⟨owned_initial, woken_initial⟩ timely
    rintro s a ⟨ho, hw⟩ timely
    exact ⟨ho.step timely, hw.step ho timely⟩
  constructor
  · exact throughout_mono (fun s hb => not_stuck hb.1 hb.2) hi
  · apply along_of_throughout _ hi
    exact fun s a hb _ => hb.1.returnsClean a

def stopWhileBlocked : List LoopAct :=
  .startServer :: replicate 9 (.serve .success) ++ .stopServer :: replicate 4 .stop ++
    replicate 4 (.serve .success) ++ replicate 2 .stop

theorem blocked_accept_stopped :
    let p : Platform := ⟨kStartPort, .unset, false⟩
    Throughout (step p) (fun s => ¬ s.Stuck p) initial stopWhileBlocked ∧
      Along (step p) (ReturnsClean p) initial stopWhileBlocked :=
  stop_leaves_no_listener ⟨kStartPort, .unset, false⟩ stopWhileBlocked (by decide)

/-- `StopServer` after `is_serving_` was set and before `socket_fd_` is loaded. -/
def stopWhileOpening : List LoopAct :=
  [.startServer, .serve .success, .stopServer] ++ replicate 4 .stop ++ replicate 8 (.serve .success)

/-- Nobody closes the socket that is opened then. When a client connects, `StopServer` returns and the
socket still listens. -/
theorem stop_leaves_listener :
    let p : Platform := ⟨kStartPort, .unset, true⟩
    let s := stopWhileOpening.foldl (step p) initial
    let e := (replicate 3 (LoopAct.serve .success) ++ replicate 2 LoopAct.stop).foldl (step p) s
    s.Stuck p ∧ s.isServing = true ∧ (s.sockets 0).accepts = true ∧
      e.stop = .idle ∧ e.socketFd = some 0 ∧ (e.sockets 0).accepts = true := by
  refine ⟨⟨by decide, [], 0, ?_⟩, ?_⟩ <;> decide

end AcceptLoop

end DebugRouter.Native
