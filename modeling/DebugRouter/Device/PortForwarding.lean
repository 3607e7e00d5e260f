import DebugRouter.Library.OrderedMap
import DebugRouter.Library.Runs

/-!
The table of forwarded ports of an Android device. A `forwards()` call removes the old forwards and
then, for each port of the SDK, looks for a free port of the host and asks adb to forward it. It
waits for adb in between, and other calls may run meanwhile. `detectPort` may find any port.
-/
namespace DebugRouter.Device

open Library List

def remoteBasePort : Nat := 8901

/-- Where a call waits: for the removal, for a free port, or for adb. -/
inductive Phase where
  | removing
  | detecting (i tryCount : Nat)
  | forwarding (i tryCount hostport : Nat)
  deriving DecidableEq

/-- `running` are the calls of `forwards` that did not return yet. -/
structure ForwardingDevice where
  port : List Nat
  forwardedPorts : OrderedMap Nat Nat := .empty
  running : Nat → Option Phase := fun _ => none

namespace ForwardingDevice

def create (count : Nat) : ForwardingDevice := { port := (range count).map (remoteBasePort + ·) }

def waits (d : ForwardingDevice) (id : Nat) (phase : Option Phase) : ForwardingDevice :=
  { d with running := Function.update d.running id phase }

variable (count : Nat)

def next (d : ForwardingDevice) (id i : Nat) : ForwardingDevice :=
  d.waits id (if i < count then some (.detecting i 0) else none)

inductive Act where
  | forwards (id : Nat)
  | removed (id : Nat)
  | detected (id hostport : Nat)
  | answered (id : Nat) (result : Bool)
  | disconnect
  deriving DecidableEq

/-- adbkit always gives a device, so a call never returns at once. -/
def step (d : ForwardingDevice) : Act → ForwardingDevice
  | .forwards id =>
    if (d.running id).isSome then d else { d with forwardedPorts := .empty }.waits id (some .removing)
  | .removed id =>
    match d.running id with
    | some .removing => next count { d with port := [] } id 0
    | _ => d
  | .detected id hostport =>
    match d.running id with
    | some (.detecting i tryCount) =>
      if hostport ∈ d.port then d else d.waits id (some (.forwarding i tryCount hostport))
    | _ => d
  | .answered id result =>
    match d.running id with
    | some (.forwarding i tryCount hostport) =>
      if result then
        next count { d with
          port := d.port ++ [hostport]
          forwardedPorts := d.forwardedPorts.set hostport (remoteBasePort + i) } id (i + 1)
      else if tryCount + 1 < 5 then d.waits id (some (.detecting i (tryCount + 1)))
      else next count d id (i + 1)
    | _ => d
  | .disconnect => { d with forwardedPorts := .empty }

def Idle (d : ForwardingDevice) : Prop := ∀ id, d.running id = none

/-- Both tables have the same ports, each once, and no two of them lead to the same port. -/
structure Agrees (d : ForwardingDevice) : Prop where
  nodup : d.port.Nodup
  same : ∀ hostport, hostport ∈ d.port ↔ d.forwardedPorts.has hostport = true
  single : ∀ h h' remote, d.forwardedPorts.get? h = some remote →
    d.forwardedPorts.get? h' = some remote → h = h'

def Alone (d : ForwardingDevice) : Act → Prop
  | .forwards _ => d.Idle
  | .disconnect => d.Idle
  | _ => True

structure Built (d : ForwardingDevice) (i : Nat) : Prop extends Agrees d where
  earlier : ∀ h remote, d.forwardedPorts.get? h = some remote → remote < remoteBasePort + i

variable {count} {d : ForwardingDevice} {id i : Nat}

theorem Built.mono {j : Nat} (hb : d.Built i) (hl : i ≤ j) : d.Built j :=
  ⟨hb.toAgrees, fun h remote hf => by have := hb.earlier h remote hf; omega⟩

theorem built_empty : Built { d with port := [], forwardedPorts := .empty } 0 :=
  ⟨⟨by simp, by simp [OrderedMap.has], by simp⟩, by simp⟩

theorem Built.push {hostport : Nat} (hbu : d.Built i) (new : hostport ∉ d.port) :
    Built { d with
      port := d.port ++ [hostport]
      forwardedPorts := d.forwardedPorts.set hostport (remoteBasePort + i) } (i + 1) := by
  obtain ⟨⟨hn, hsa, hsi⟩, he⟩ := hbu
  have seen : ∀ {h remote},
      (d.forwardedPorts.set hostport (remoteBasePort + i)).get? h = some remote →
      h = hostport ∧ remote = remoteBasePort + i ∨
        d.forwardedPorts.get? h = some remote ∧ remote < remoteBasePort + i := by
    intro h remote hf
    rw [OrderedMap.get?_set] at hf
    split at hf
    · next hh => exact .inl ⟨hh, (Option.some.inj hf).symm⟩
    · exact .inr ⟨hf, he h remote hf⟩
  refine ⟨⟨?_, ?_, ?_⟩, ?_⟩
  · exact hn.append (nodup_singleton _) (by simpa using new)
  · intro h
    rw [mem_append, hsa, mem_singleton, OrderedMap.has_set, Bool.or_eq_true, decide_eq_true_eq,
      @eq_comm _ h]
  · intro h h' remote hf hf'
    obtain ⟨hh, hl⟩ | ⟨hb, hsm⟩ := seen hf <;>
      obtain ⟨hh', hl'⟩ | ⟨hb', hsm'⟩ := seen hf'
    · rw [hh, hh']
    · omega
    · omega
    · exact hsi h h' remote hb hb'
  · intro h remote hf
    obtain ⟨-, hl⟩ | ⟨-, hsm⟩ := seen hf <;> omega

def Reached (d : ForwardingDevice) : Option Phase → Prop
  | none => d.Agrees
  | some .removing => d.forwardedPorts = .empty
  | some (.detecting i _) => d.Built i
  | some (.forwarding i _ hostport) => d.Built i ∧ hostport ∉ d.port

variable {phase : Option Phase} {act : Act} {acts : List Act}

theorem Reached.of_ports {d' : ForwardingDevice} (hr : d.Reached phase)
    (hsam : d'.port = d.port) (hsa : d'.forwardedPorts = d.forwardedPorts) : d'.Reached phase := by
  obtain ⟨port, forwardedPorts, running⟩ := d
  obtain ⟨port', forwardedPorts', running'⟩ := d'
  subst hsam hsa
  match phase, hr with
  | none, ⟨hn, hs, hsi⟩ => exact ⟨hn, hs, hsi⟩
  | some .removing, hc => exact hc
  | some (.detecting _ _), ⟨⟨hn, hs, hsi⟩, he⟩ => exact ⟨⟨hn, hs, hsi⟩, he⟩
  | some (.forwarding _ _ _), ⟨⟨⟨hn, hs, hsi⟩, he⟩, new⟩ => exact ⟨⟨⟨hn, hs, hsi⟩, he⟩, new⟩

structure OnlyCall (d : ForwardingDevice) (id : Nat) : Prop where
  others : ∀ other, other ≠ id → d.running other = none
  reached : d.Reached (d.running id)

theorem running_waits (phase : Option Phase) (other : Nat) :
    (d.waits id phase).running other = if other = id then phase else d.running other :=
  Function.update_apply d.running id phase other

theorem onlyCall_waits (ho : ∀ other, other ≠ id → d.running other = none)
    (hr : d.Reached phase) : (d.waits id phase).OnlyCall id := by
  refine ⟨fun other ha => ?_, ?_⟩
  · rw [running_waits, if_neg ha]
    exact ho other ha
  · rw [running_waits, if_pos rfl]
    exact hr.of_ports rfl rfl

theorem onlyCall_next (ho : ∀ o, o ≠ id → d.running o = none) (hb : d.Built i) :
    (next count d id i).OnlyCall id := by
  refine onlyCall_waits ho ?_
  split
  · exact hb
  · exact hb.toAgrees

def Act.begins : Act → Bool
  | .forwards _ => true
  | .disconnect => true
  | _ => false

theorem OnlyCall.step (only : d.OnlyCall id) (hl : act.begins = false) :
    (d.step count act).OnlyCall id := by
  have mine : ∀ {o phase}, d.running o = some phase → o = id := by
    intro o phase hw
    by_contra ha
    rw [only.others o ha] at hw
    cases hw
  have hr := only.reached
  cases act with
  | forwards _ | disconnect => cases hl
  | removed o =>
    rw [ForwardingDevice.step]
    split
    · next hw =>
      obtain rfl := mine hw
      rw [hw] at hr
      have hc : d.forwardedPorts = .empty := hr
      refine onlyCall_next only.others ?_
      rw [hc]
      exact built_empty
    · exact only
  | detected o hostport =>
    rw [ForwardingDevice.step]
    split
    · next hw =>
      obtain rfl := mine hw
      rw [hw] at hr
      split
      · exact only
      · next new => exact onlyCall_waits only.others ⟨hr, new⟩
    · exact only
  | answered o result =>
    rw [ForwardingDevice.step]
    split
    · next hw =>
      obtain rfl := mine hw
      rw [hw] at hr
      obtain ⟨hb, new⟩ := hr
      split
      · exact onlyCall_next only.others (hb.push new)
      · split
        · exact onlyCall_waits only.others hb
        · exact onlyCall_next only.others (hb.mono (Nat.le_succ _))
    · exact only

theorem OnlyCall.run (only : d.OnlyCall id) (hl : ∀ act ∈ acts, act.begins = false) :
    (acts.foldl (ForwardingDevice.step count) d).OnlyCall id := by
  induction acts generalizing d with
  | nil => exact only
  | cons act xs ih =>
    obtain ⟨x, ho⟩ := forall_mem_cons.mp hl
    exact ih (only.step x) ho

theorem Idle.step (hi : d.Idle) (hl : act.begins = false) : d.step count act = d := by
  cases act with
  | forwards _ | disconnect => cases hl
  | removed id | detected id hostport | answered id result => simp [ForwardingDevice.step, hi id]

theorem Idle.run (hi : d.Idle) (hl : ∀ act ∈ acts, act.begins = false) :
    acts.foldl (ForwardingDevice.step count) d = d := by
  induction acts with
  | nil => rfl
  | cons act xs ih =>
    obtain ⟨x, ho⟩ := forall_mem_cons.mp hl
    rw [foldl_cons, hi.step x, ih ho]

/-- When the last call, which ran alone, has returned and the device was not disconnected since, the
tables agree; after `disconnect` nothing is forwarded until the next call. -/
theorem forwarding_agrees (count : Nat) (before after : List Act) (act : Act)
    (alone : Along (step count) Alone (create count) (before ++ act :: after))
    (last : ∀ later ∈ after, later.begins = false) :
    (∀ id, act = .forwards id → ((before ++ act :: after).foldl (step count) (create count)).Idle →
      ((before ++ act :: after).foldl (step count) (create count)).Agrees) ∧
    (act = .disconnect →
      ∀ hostport, ((before ++ act :: after).foldl (step count) (create count)).forwardedPorts.get?
        hostport = none) := by
  rw [along_append] at alone
  rw [foldl_append, foldl_cons]
  generalize before.foldl (step count) (create count) = d at alone
  have now := alone.2.1
  refine ⟨?_, ?_⟩
  · rintro id rfl hf
    have hi : d.Idle := now
    have hs : (d.step count (.forwards id)).OnlyCall id := by
      rw [step, if_neg (by simp [hi id])]
      exact onlyCall_waits (fun other _ => hi other) rfl
    have hc : (after.foldl (step count) (d.step count (.forwards id))).OnlyCall id := hs.run last
    have hr := hc.reached
    rw [hf id] at hr
    exact hr
  · rintro rfl hostport
    have hi : Idle { d with forwardedPorts := .empty } := now
    rw [step, hi.run last]
    rfl

theorem one_port_forwarded :
    ([Act.forwards 0, .removed 0, .detected 0 10001, .answered 0 true].foldl (step 1)
      (create 1)).Agrees := by
  refine (forwarding_agrees 1 [] [.removed 0, .detected 0 10001, .answered 0 true] (.forwards 0)
    ⟨fun _ => rfl, trivial, trivial, trivial, trivial⟩ (by decide)).1 0 rfl fun id => ?_
  by_cases hm : id = 0 <;> simp [step, create, waits, next, hm, Function.update]

/-- The second call begins while the first waits for adb. It clears the list but not the table, and
both forward the same port of the device. -/
theorem overlapping_calls_disagree :
    let d :=
      [Act.forwards 0, .removed 0, .detected 0 10001, .forwards 1, .answered 0 true, .removed 1,
      .detected 1 10002, .answered 1 true].foldl (step 1) (create 1)
    d.Idle ∧ d.port = [10002] ∧ d.forwardedPorts.get? 10001 = some 8901 ∧
      d.forwardedPorts.get? 10002 = some 8901 := by
  refine ⟨fun id => ?_, by decide⟩
  by_cases first : id = 0 <;> by_cases second : id = 1 <;>
    simp [step, create, waits, next, first, second, Function.update]

end ForwardingDevice

end DebugRouter.Device
