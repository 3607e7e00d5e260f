import DebugRouter.Library.Runs
import DebugRouter.Trace.Recorder

/-!
What an attempt id says. A node without an attempt of its own takes the one recorded for its port or
for its client, and the plug of a device throws these records away; still no attempt is ever shared
by two ports.
-/
namespace DebugRouter.Trace

open Library ConnectionTraceRecorder

theorem portKey_inj {d d' : String} {p p' : Nat} (h : portKey d p = portKey d' p') :
    d = d' ∧ p = p' := by
  have starts {d d' : String} {p p' : Nat} (h : portKey d p = portKey d' p') :
      d' = d ∨ d.toList.length < d'.toList.length := by
    refine ((startsWith_portKey d d' p').mp
      (h ▸ (startsWith_portKey d d p).mpr (.inl rfl))).imp_right fun hs => ?_
    rw [startsWith, List.isPrefixOf_iff_prefix] at hs
    have hl := hs.length_le
    rw [String.toList_append, List.length_append] at hl
    exact Nat.lt_of_lt_of_le (Nat.lt_add_of_pos_right (by decide)) hl
  have hd : d = d' := by
    rcases starts h with hd | hl
    · exact hd.symm
    · exact (starts h.symm).resolve_right (by omega)
  subst hd
  have hr : p.repr.toList = p'.repr.toList := by simpa [portKey, ← String.toList_inj] using h
  rw [Nat.toList_repr, Nat.toList_repr] at hr
  exact ⟨rfl, by rw [← Nat.ofDigitChars_ten_toDigits (n := p), hr, Nat.ofDigitChars_ten_toDigits]⟩

/-- `q` is what comes of asking for an attempt of a port: the one that is recorded, or a new one. -/
structure Draws (r : ConnectionTraceRecorder) (d : String) (p : Nat)
    (q : ConnectionTraceRecorder × Nat) : Prop where
  le : r.nextAttempt ≤ q.1.nextAttempt
  attempt : r.findConnectionAttempt d p = some q.2 ∨ q.2 = r.nextAttempt ∧ q.2 < q.1.nextAttempt
  ports : ∀ d' p' x, q.1.findConnectionAttempt d' p' = some x →
    r.findConnectionAttempt d' p' = some x ∨ q.2 = x ∧ d' = d ∧ p' = p
  clients : q.1.usbClientConnections = r.usbClientConnections

theorem draws_start (r : ConnectionTraceRecorder) (d : String) (p : Nat) :
    Draws r d p (r.startConnectionAttempt d p) := by
  refine ⟨Nat.le_succ _, .inr ⟨rfl, Nat.lt_succ_self _⟩, fun d' p' x hx => ?_, rfl⟩
  simp only [findConnectionAttempt, startConnectionAttempt, OrderedMap.get?_set] at hx
  grind [portKey_inj, findConnectionAttempt, startConnectionAttempt]

theorem draws_resolve (r : ConnectionTraceRecorder) (d : String) (p : Nat) :
    Draws r d p (r.resolveConnectionAttempt d p) := by
  unfold resolveConnectionAttempt
  split
  next x hx => exact ⟨Nat.le_refl _, .inl hx, fun _ _ _ h => .inl h, rfl⟩
  · exact draws_start r d p

inductive TraceAct where
  | devicePlug (deviceId : String)
  | socketConnected (deviceId : String) (port : Nat)
  | socketDisconnected (deviceId : String) (port : Nat) (connectionAttemptId : Option Nat)
  | sdkRegister (deviceId : String) (port : Nat) (connectionAttemptId : Option Nat)
  | usbClientConnected (deviceId : String) (port : Nat) (clientId : Int)
  | usbClientDisconnected (deviceId : String) (port : Nat) (clientId : Int)

structure Traced where
  recorder : ConnectionTraceRecorder := {}
  nodes : List ConnectionTraceNode := []

namespace Traced
variable (s : Traced)

def add (recorded : ConnectionTraceRecorder × ConnectionTraceNode) : Traced :=
  ⟨recorded.1, s.nodes ++ [recorded.2]⟩

def step : TraceAct → Traced
  | .devicePlug d => s.add (s.recorder.recordDevicePlug d)
  | .socketConnected d p => s.add (s.recorder.recordSocketConnected d p).1
  | .socketDisconnected d p attempt => s.add (s.recorder.recordSocketDisconnected d p attempt)
  | .sdkRegister d p attempt => s.add (s.recorder.recordSdkRegister d p attempt)
  | .usbClientConnected d p client => s.add (s.recorder.recordUsbClientConnected d p client)
  | .usbClientDisconnected d p client => s.add (s.recorder.recordUsbClientDisconnected d p client)

/-- The device and the port of the first node that carries an attempt. -/
def placeOf (attempt : Nat) : Option (Option String × Option Nat) :=
  s.nodes.findSome? fun n => if n.connectionAttemptId = some attempt then some (n.deviceId, n.port)
    else none

/-- An adapter passes the attempt of its own socket, and a client stays on one port. -/
def Given (place : Int → String × Nat) : TraceAct → Prop
  | .socketDisconnected d p attempt | .sdkRegister d p attempt =>
    ∀ x, attempt = some x → s.placeOf x = some (some d, some p)
  | .usbClientConnected d p client | .usbClientDisconnected d p client => place client = (d, p)
  | _ => True

structure Placed (place : Int → String × Nat) : Prop where
  drawn : ∀ x, s.recorder.nextAttempt ≤ x → s.placeOf x = none
  same : ∀ n ∈ s.nodes, ∀ x, n.connectionAttemptId = some x → s.placeOf x = some (n.deviceId, n.port)
  ports : ∀ d p x, s.recorder.findConnectionAttempt d p = some x → s.placeOf x = some (some d, some p)
  clients : ∀ c e x, s.recorder.usbClientConnections.get? c = some e →
    e.connectionAttemptId = some x →
    s.placeOf x = some (some (place c).1, some (place c).2)

def OnePlace : Prop :=
  ∀ n ∈ s.nodes, ∀ n' ∈ s.nodes, n.connectionAttemptId ≠ none →
    n.connectionAttemptId = n'.connectionAttemptId →
    n.deviceId = n'.deviceId ∧ n.port = n'.port

variable {s} {place : Int → String × Nat} {r : ConnectionTraceRecorder} {n : ConnectionTraceNode}
variable {d : String} {p : Nat}

theorem placeOf_add {x : Nat} : (s.add (r, n)).placeOf x =
    (s.placeOf x).or (if n.connectionAttemptId = some x then some (n.deviceId, n.port)
      else none) := by
  simp [placeOf, add, List.findSome?_append]

/-- A node may carry an attempt of its port or a new one; what is recorded for a port or a client
was there or is its. -/
theorem Placed.add (h : s.Placed place)
    (hl : s.recorder.nextAttempt ≤ r.nextAttempt)
    (hn : ∀ x, n.connectionAttemptId = some x → (n.deviceId, n.port) = (some d, some p) ∧
      (s.placeOf x = some (some d, some p) ∨ x = s.recorder.nextAttempt ∧ x < r.nextAttempt))
    (hp : ∀ d' p' x, r.findConnectionAttempt d' p' = some x →
      s.recorder.findConnectionAttempt d' p' = some x ∨
      n.connectionAttemptId = some x ∧ d' = d ∧ p' = p)
    (hc : ∀ c e, r.usbClientConnections.get? c = some e →
      s.recorder.usbClientConnections.get? c = some e ∨
      e.connectionAttemptId = n.connectionAttemptId ∧ place c = (d, p)) :
        (s.add (r, n)).Placed place := by
  obtain ⟨h1, h2, h3, h4⟩ := h
  have ha (x : Nat) := placeOf_add (s := s) (r := r) (n := n) (x := x)
  constructor <;> simp only [ha] <;> grind [Traced.add]

theorem Placed.draw (h : s.Placed place) {q : ConnectionTraceRecorder × Nat}
    (hq : Draws s.recorder d p q)
    (hn : (n.deviceId, n.port, n.connectionAttemptId) = (some d, some p, some q.2))
    (hr : (r.nextAttempt, r.connectionAttemptByPort) = (q.1.nextAttempt, q.1.connectionAttemptByPort))
    (hc : ∀ c e, r.usbClientConnections.get? c = some e →
      s.recorder.usbClientConnections.get? c = some e ∨
      e.connectionAttemptId = some q.2 ∧ place c = (d, p)) : (s.add (r, n)).Placed place := by
  obtain ⟨hl, hx, hp, _⟩ := hq
  have ha := h.ports d p q.2
  unfold findConnectionAttempt at *
  exact h.add (d := d) (p := p) (by grind) (by grind) (by grind [findConnectionAttempt]) (by grind)

theorem Placed.step (h : s.Placed place) (act : TraceAct) (ha : s.Given place act) :
    (s.step act).Placed place := by
  cases act with
  | devicePlug d =>
    refine h.add (r := (s.recorder.recordDevicePlug d).1) (d := d) (p := 0) (Nat.le_refl _)
      (fun x hx => by cases hx)
      (fun d' p' x hx => ?_) fun c e he => .inl (OrderedMap.get?_filter_eq_some.mp he).1
    rw [find_recordDevicePlug] at hx
    grind
  | socketConnected d p => exact h.draw (draws_start ..) rfl rfl fun _ _ => .inl
  | socketDisconnected d p attempt =>
    refine h.add (d := d) (p := p) (Nat.le_refl _) (fun x hx => ⟨rfl, .inl ?_⟩)
      (fun d' p' x hx => .inl (OrderedMap.get?_of_delete hx)) fun _ _ => .inl
    cases attempt with
    | some y => exact ha x hx
    | none => exact h.ports d p x hx
  | sdkRegister d p attempt =>
    cases attempt with
    | some y =>
      exact h.add (d := d) (p := p) (Nat.le_refl _) (fun x hx => ⟨rfl, .inl (ha x hx)⟩)
        (fun _ _ _ => .inl) fun _ _ => .inl
    | none =>
      have hq := draws_resolve s.recorder d p
      exact h.draw hq rfl rfl fun c e he => .inl (hq.clients ▸ he)
  | usbClientConnected d p client =>
    have hq := draws_resolve s.recorder d p
    refine h.draw hq rfl rfl fun c e he => ?_
    change ((s.recorder.resolveConnectionAttempt d p).1.usbClientConnections.set client _).get? c =
      some e at he
    rw [hq.clients, OrderedMap.get?_set] at he
    split at he
    next hs =>
      cases he
      exact .inr ⟨rfl, hs ▸ ha⟩
    · exact .inl he
  | usbClientDisconnected d p client =>
    refine h.add (d := d) (p := p) (Nat.le_refl _) (fun x hx => ⟨rfl, .inl ?_⟩)
      (fun _ _ _ => .inl) fun c e he => .inl (OrderedMap.get?_of_delete he)
    change (_ <|> s.recorder.findConnectionAttempt d p) = some x at hx
    cases hb : (s.recorder.usbClientConnections.get? client).bind
      ClientTraceInfo.connectionAttemptId with
    | some y =>
      rw [hb] at hx
      cases hx
      obtain ⟨e, he, hy⟩ := Option.bind_eq_some_iff.mp hb
      rw [h.clients client e x he hy, show place client = (d, p) from ha]
    | none => exact h.ports d p x (by rwa [hb] at hx)

/-- All nodes of an attempt are about one port of one device. -/
theorem attempt_has_one_place (place : Int → String × Nat) (acts : List TraceAct)
    (ha : Along step (fun s => s.Given place) {} acts) : Throughout step OnePlace {} acts := by
  refine throughout_mono (fun s (h : s.Placed place) n hn n' hn' hd he => ?_)
    (throughout_of_along (fun s act h => h.step act) ⟨?_, ?_, ?_, ?_⟩ ha)
  · obtain ⟨x, hx⟩ := Option.ne_none_iff_exists'.mp hd
    exact Prod.mk.inj (Option.some.inj ((h.same n hn x hx).symm.trans (h.same n' hn' x (he ▸ hx))))
  all_goals simp [placeOf, findConnectionAttempt]

theorem attempt_has_one_place_replugged : Throughout step OnePlace {}
    [.socketConnected "a" 1, .sdkRegister "a" 1 (some 0), .usbClientConnected "a" 1 5,
      .devicePlug "a", .socketDisconnected "a" 1 none, .usbClientDisconnected "a" 1 5] :=
  attempt_has_one_place (fun _ => ("a", 1)) _
    ⟨trivial, by rintro _ ⟨⟩; rfl, rfl, trivial, by rintro _ ⟨⟩, rfl, trivial⟩

end Traced

end DebugRouter.Trace
