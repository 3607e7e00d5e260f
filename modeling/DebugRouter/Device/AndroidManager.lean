import DebugRouter.Library.Holders
import DebugRouter.Library.OrderedMap
import DebugRouter.Library.Runs

/-!
The Android device manager. The tracker of adb reports devices; a device that is reported as
`device` is created in several awaits and registered when it is there. `Sight` says beside it what
the tracker has reported and which creations were started for what it still reports.
-/
namespace DebugRouter.Device

open Library

/-- How far `createDevice` is. The continuation of `registerDevice` comes after `created`. -/
inductive CreationPoint where
  | properties
  | forwards
  | created
  deriving DecidableEq

structure Creation where
  serial : String
  point : CreationPoint
  deriving DecidableEq

/-- A device object is named by the creation that made it. `devices` are those of the connector. -/
structure AndroidManager where
  closed : Bool
  managedDevices : OrderedMap String Nat
  devices : OrderedMap String Nat
  creations : OrderedMap Nat Creation
  nextCreation : Nat

inductive TrackerAct where
  | add (serial type : String)
  | change (serial type : String)
  | remove (serial : String)
  | error
  | advance (creation : Nat) (succeeds : Bool)
  | close
  deriving DecidableEq

namespace AndroidManager
variable (m : AndroidManager)

def initial : AndroidManager := ⟨false, .empty, .empty, .empty, 0⟩

def connectorRegister (serial : String) (device : Nat) : AndroidManager :=
  if m.devices.has serial then m else { m with devices := m.devices.set serial device }

def registerManagedDevice (serial : String) (device : Nat) : AndroidManager :=
  if m.closed then m
  else if (m.devices.get? serial).any (· ≠ device) then m
  else { m with managedDevices := m.managedDevices.set serial device }.connectorRegister serial device

def unregisterManagedDevice (serial : String) : AndroidManager :=
  { m with
    managedDevices := m.managedDevices.delete serial
    devices :=
      if (m.managedDevices.get? serial).isSome ∧
          m.devices.get? serial = m.managedDevices.get? serial then
        m.devices.delete serial
      else m.devices }

def unregisterManagedDevices : AndroidManager :=
  m.managedDevices.keys.foldl unregisterManagedDevice m

def registerDevice (serial : String) : AndroidManager :=
  { m with
    creations := m.creations.set m.nextCreation ⟨serial, .properties⟩
    nextCreation := m.nextCreation + 1 }

def add (serial type : String) : AndroidManager :=
  if m.closed then m
  else if type = "device" then m.registerDevice serial
  else m

def change (serial type : String) : AndroidManager :=
  if m.closed then m
  else if type = "device" then m.registerDevice serial
  else if m.devices.has serial then m.unregisterManagedDevice serial
  else m

def remove (serial : String) : AndroidManager :=
  if m.closed then m
  else if m.devices.has serial then m.unregisterManagedDevice serial
  else m

def trackerError : AndroidManager := if m.closed then m else m.unregisterManagedDevices

def advance (k : Nat) (succeeds : Bool) : AndroidManager :=
  match m.creations.get? k with
  | none => m
  | some ⟨serial, .properties⟩ =>
    if succeeds = false ∨ m.closed then { m with creations := m.creations.delete k }
    else { m with creations := m.creations.set k ⟨serial, .forwards⟩ }
  | some ⟨serial, .forwards⟩ =>
    if succeeds = false then { m with creations := m.creations.delete k }
    else { m with creations := m.creations.set k ⟨serial, .created⟩ }
  | some ⟨serial, .created⟩ =>
    { m with creations := m.creations.delete k }.registerManagedDevice serial k

def close : AndroidManager :=
  if m.closed then m else { m with closed := true }.unregisterManagedDevices

def step : TrackerAct → AndroidManager
  | .add serial type => m.add serial type
  | .change serial type => m.change serial type
  | .remove serial => m.remove serial
  | .error => m.trackerError
  | .advance k succeeds => m.advance k succeeds
  | .close => m.close

end AndroidManager

/- What the tracker says -/

/-- The serials whose last event reported `device`, those of them a creation of which has succeeded,
and the creations that were started for them since. -/
structure Sight where
  seen : List String
  created : List String
  started : OrderedMap Nat String

namespace Sight
variable (w : Sight)

def none : Sight := ⟨[], [], .empty⟩

def sees (k : Nat) (serial : String) : Sight :=
  { w with seen := insertLast serial w.seen, started := w.started.set k serial }

def loses (serial : String) : Sight where
  seen := w.seen.filter (· ≠ serial)
  created := w.created.filter (· ≠ serial)
  started := w.started.filter fun _ other => other ≠ serial

def reports (k : Nat) (serial type : String) : Sight :=
  if type = "device" then w.sees k serial else w.loses serial

def succeeded (k : Nat) : Sight :=
  match w.started.get? k with
  | some serial => { w with created := insertLast serial w.created }
  | Option.none => w

def step (m : AndroidManager) : TrackerAct → Sight
  | .add serial type => if m.closed then w else w.reports m.nextCreation serial type
  | .change serial type => if m.closed then w else w.reports m.nextCreation serial type
  | .remove serial => if m.closed then w else w.loses serial
  | .error => if m.closed then w else none
  | .advance k _ =>
    if (m.creations.get? k).map Creation.point = some .created then w.succeeded k else w
  | .close => none

end Sight

/- The connector has the devices of the manager -/

namespace AndroidManager
variable {m : AndroidManager} {k : Nat} {serial : String}

def Agrees (m : AndroidManager) : Prop :=
  ∀ serial, m.devices.get? serial = m.managedDevices.get? serial

theorem Agrees.has (h : m.Agrees) (serial : String) :
    m.devices.has serial = m.managedDevices.has serial := by
  rw [OrderedMap.has, OrderedMap.has, h]

theorem Agrees.unregisterManagedDevice (h : m.Agrees) (serial : String) :
    (m.unregisterManagedDevice serial).Agrees := by
  intro o
  unfold AndroidManager.unregisterManagedDevice
  dsimp only
  rw [OrderedMap.get?_delete]
  split
  · rw [OrderedMap.get?_delete, h]
  next hu =>
    split
    next hh =>
      subst hh
      rw [h] at hu ⊢
      simpa using hu
    · exact h o

variable (ks : List String)

theorem managed_unregister :
    (ks.foldl unregisterManagedDevice m).managedDevices =
      ks.foldl OrderedMap.delete m.managedDevices := by
  induction ks generalizing m with
  | nil => rfl
  | cons serial xs ih => exact ih

theorem creations_unregister : (ks.foldl unregisterManagedDevice m).creations = m.creations ∧
      (ks.foldl unregisterManagedDevice m).nextCreation = m.nextCreation := by
  induction ks generalizing m with
  | nil => exact ⟨rfl, rfl⟩
  | cons serial xs ih => exact ih

theorem managed_unregisterManagedDevices : m.unregisterManagedDevices.managedDevices = .empty := by
  unfold unregisterManagedDevices
  rw [managed_unregister, OrderedMap.foldl_delete_keys]

theorem empty_unregistered (serial : String) :
    m.unregisterManagedDevices.managedDevices.has serial = false := by
  rw [managed_unregisterManagedDevices]
  rfl

theorem Agrees.unregisterManagedDevices (h : m.Agrees) : m.unregisterManagedDevices.Agrees := by
  have each : ∀ (m : AndroidManager) (serial : String), m.Agrees →
      (m.unregisterManagedDevice serial).Agrees :=
    fun _ serial h => h.unregisterManagedDevice serial
  exact invariant_foldl each h m.managedDevices.keys

theorem Agrees.registerManagedDevice (h : m.Agrees) (serial : String) (k : Nat) :
    (m.registerManagedDevice serial k).Agrees := by
  unfold AndroidManager.registerManagedDevice
  split
  · exact h
  · split
    · exact h
    next own =>
      intro o
      unfold connectorRegister
      dsimp only
      split
      next hk =>
        obtain ⟨dv, hf⟩ := OrderedMap.has_iff.mp hk
        have same : dv = k := by simpa [hf] using own
        dsimp only
        rw [OrderedMap.get?_set]
        split
        next hh => rw [hh, hf, same]
        · exact h o
      · rw [OrderedMap.get?_set, OrderedMap.get?_set, h]

theorem managed_registerManaged (ha : m.Agrees) (ho : m.closed = false) (serial : String) (k : Nat)
    (o : String) :
    (m.registerManagedDevice serial k).managedDevices.has o = true ↔
      m.managedDevices.has o = true ∨ o = serial := by
  unfold registerManagedDevice
  rw [if_neg (ne_true_of_eq_false ho)]
  split
  next ht =>
    cases hf : m.devices.get? serial with
    | none =>
      rw [hf] at ht
      cases ht
    | some dv =>
      constructor
      · exact .inl
      · rintro (hh | rfl)
        · exact hh
        · exact OrderedMap.has_iff.mpr ⟨dv, (ha o).symm.trans hf⟩
  · have hm :
        (connectorRegister { m with managedDevices := m.managedDevices.set serial k } serial
          k).managedDevices =
          m.managedDevices.set serial k := by
      unfold connectorRegister
      split <;> rfl
    rw [hm, OrderedMap.has_set, Bool.or_eq_true, decide_eq_true_eq, eq_comm (a := serial)]

end AndroidManager

/- The manager and the tracker -/

abbrev Tracking := AndroidManager × Sight

namespace Tracking
variable {s : Tracking}

def initial : Tracking := (.initial, .none)

def step (s : Tracking) (act : TrackerAct) : Tracking := (s.1.step act, s.2.step s.1 act)

def Matches (s : Tracking) : Prop :=
  ∀ serial, s.1.devices.has serial = true ↔ serial ∈ s.2.seen ∧ serial ∈ s.2.created

/-- A creation that comes to its end is one for what the tracker still reports, or changes nothing,
and no registered device is added again as something else. -/
def KeepsUp (s : Tracking) : TrackerAct → Prop
  | .add serial type => s.1.closed = false → type ≠ "device" → s.1.devices.has serial = false
  | .advance k _ => s.1.closed = false → ∀ serial, s.1.creations.get? k = some ⟨serial, .created⟩ →
      s.2.started.get? k = some serial ∨ serial ∈ s.2.created
  | _ => True

structure Linked (s : Tracking) : Prop where
  agrees : s.1.Agrees
  closed : s.1.closed = true → s.2 = .none ∧ ∀ serial, s.1.managedDevices.has serial = false
  fresh : ∀ k creation, s.1.creations.get? k = some creation → k < s.1.nextCreation
  own : ∀ k creation serial, s.1.creations.get? k = some creation → s.2.started.get? k = some serial →
    creation.serial = serial
  begun : ∀ k serial, s.2.started.get? k = some serial → serial ∈ s.2.seen
  within : ∀ serial ∈ s.2.created, serial ∈ s.2.seen

theorem Linked.of_none {m' : AndroidManager} (hl : s.Linked) (agrees : m'.Agrees)
    (he : ∀ serial, m'.managedDevices.has serial = false) (hc : m'.creations = s.1.creations)
    (next : m'.nextCreation = s.1.nextCreation) : Linked (m', .none) where
  agrees := agrees
  closed := fun _ => ⟨rfl, he⟩
  fresh := fun k cr hf => by
    rw [hc] at hf
    exact next ▸ hl.fresh k cr hf
  own := nofun
  begun := nofun
  within := nofun

theorem Linked.sees (hl : s.Linked) (ho : s.1.closed = false) (serial : String) :
    Linked (s.1.registerDevice serial, s.2.sees s.1.nextCreation serial) := by
  have old : ∀ k cr, (s.1.registerDevice serial).creations.get? k = some cr →
      (k = s.1.nextCreation ∧ cr = ⟨serial, .properties⟩) ∨
        (k ≠ s.1.nextCreation ∧ s.1.creations.get? k = some cr) := by
    intro k cr hf
    rw [AndroidManager.registerDevice, OrderedMap.get?_set] at hf
    split at hf
    next hs => exact .inl ⟨hs, (Option.some.inj hf).symm⟩
    next ha => exact .inr ⟨ha, hf⟩
  have hk : ∀ k o, (s.2.sees s.1.nextCreation serial).started.get? k = some o →
      (k = s.1.nextCreation ∧ o = serial) ∨ (k ≠ s.1.nextCreation ∧ s.2.started.get? k = some o) := by
    intro k o hf
    rw [Sight.sees, OrderedMap.get?_set] at hf
    split at hf
    next hs => exact .inl ⟨hs, (Option.some.inj hf).symm⟩
    next ha => exact .inr ⟨ha, hf⟩
  constructor
  · exact hl.agrees
  · intro closed
    cases ho.symm.trans closed
  · intro k cr hf
    rcases old k cr hf with ⟨rfl, -⟩ | ⟨-, hbe⟩
    · exact Nat.lt_succ_self _
    · exact Nat.lt_succ_of_lt (hl.fresh k cr hbe)
  · intro k cr o hf hb
    rcases old k cr hf with ⟨hh, rfl⟩ | ⟨ha, hbe⟩
    · rcases hk k o hb with ⟨-, rfl⟩ | ⟨ha, -⟩
      · rfl
      · exact absurd hh ha
    · rcases hk k o hb with ⟨hh, -⟩ | ⟨-, he⟩
      · exact absurd hh ha
      · exact hl.own k cr o hbe he
  · intro k o hb
    rcases hk k o hb with ⟨-, rfl⟩ | ⟨-, he⟩
    · exact mem_insertLast.mpr (.inr rfl)
    · exact mem_insertLast.mpr (.inl (hl.begun k o he))
  · intro o hc
    exact mem_insertLast.mpr (.inl (hl.within o hc))

theorem Linked.loses {m' : AndroidManager} (hl : s.Linked) (hag : m'.Agrees) (ho : m'.closed = false)
    (hcr : m'.creations = s.1.creations) (next : m'.nextCreation = s.1.nextCreation)
    (serial : String) :
    Linked (m', s.2.loses serial) := by
  constructor
  · exact hag
  · intro closed
    exact absurd (ho.symm.trans closed) nofun
  · intro k cr hf
    rw [hcr] at hf
    exact next ▸ hl.fresh k cr hf
  · intro k cr o hf hbe
    rw [hcr] at hf
    exact hl.own k cr o hf (OrderedMap.get?_filter_eq_some.mp hbe).1
  · intro k o hbe
    obtain ⟨hb, ha⟩ := OrderedMap.get?_filter_eq_some.mp hbe
    exact List.mem_filter.mpr ⟨hl.begun k o hb, ha⟩
  · intro o hc
    obtain ⟨hb, ha⟩ := List.mem_filter.mp hc
    exact List.mem_filter.mpr ⟨hl.within o hb, ha⟩

theorem Linked.moved {creations : OrderedMap Nat Creation} (hl : s.Linked)
    (hbe : ∀ k cr, creations.get? k = some cr →
      ∃ old, s.1.creations.get? k = some old ∧ old.serial = cr.serial) :
    Linked ({ s.1 with creations := creations }, s.2) := by
  constructor
  · exact hl.agrees
  · exact hl.closed
  · intro k cr hf
    obtain ⟨old, he, -⟩ := hbe k cr hf
    exact hl.fresh k old he
  · intro k cr serial hf hb
    obtain ⟨old, he, hs⟩ := hbe k cr hf
    exact hs ▸ hl.own k old serial he hb
  · exact hl.begun
  · exact hl.within

theorem Linked.dropped (h : s.Linked) (k : Nat) :
    Linked ({ s.1 with creations := s.1.creations.delete k }, s.2) :=
  h.moved fun _ cr hf => ⟨cr, OrderedMap.get?_of_delete hf, rfl⟩

variable {k : Nat} {serial : String} {act : TrackerAct}

theorem Linked.advanced {cr : Creation} (hl : s.Linked)
    (hf : s.1.creations.get? k = some cr) (pt : CreationPoint) :
    Linked ({ s.1 with creations := s.1.creations.set k ⟨cr.serial, pt⟩ }, s.2) := by
  apply hl.moved
  intro j moved ht
  rw [OrderedMap.get?_set] at ht
  split at ht
  next hs =>
    cases ht
    exact ⟨cr, hs ▸ hf, rfl⟩
  · exact ⟨moved, ht, rfl⟩

theorem Linked.succeeded (h : s.Linked) (k : Nat) : Linked (s.1, s.2.succeeded k) := by
  unfold Sight.succeeded
  split
  next serial hb =>
    constructor
    · exact h.agrees
    · intro hc
      obtain ⟨hbl, he⟩ := h.closed hc
      rw [hbl] at hb
      cases hb
    · exact h.fresh
    · exact h.own
    · exact h.begun
    · intro o hcr
      rcases mem_insertLast.mp hcr with old | rfl
      · exact h.within o old
      · exact h.begun k o hb
  · exact h

theorem Linked.registered (h : s.Linked) (serial : String) (k : Nat) :
    Linked (s.1.registerManagedDevice serial k, s.2) := by
  have ha := h.agrees.registerManagedDevice serial k
  have fixed : (s.1.registerManagedDevice serial k).creations = s.1.creations ∧
      (s.1.registerManagedDevice serial k).nextCreation = s.1.nextCreation ∧
      (s.1.registerManagedDevice serial k).closed = s.1.closed := by
    unfold AndroidManager.registerManagedDevice AndroidManager.connectorRegister
    split
    · exact ⟨rfl, rfl, rfl⟩
    · split
      · exact ⟨rfl, rfl, rfl⟩
      · dsimp only
        split <;> exact ⟨rfl, rfl, rfl⟩
  obtain ⟨hc, next, hcl⟩ := fixed
  constructor
  · exact ha
  · intro hs
    dsimp only at hs
    rw [hcl] at hs
    have same : s.1.registerManagedDevice serial k = s.1 := if_pos hs
    dsimp only
    rw [same]
    exact h.closed hs
  · intro j cr hf
    dsimp only at hf ⊢
    rw [hc] at hf
    exact next ▸ h.fresh j cr hf
  · intro j cr o hf hb
    dsimp only at hf
    rw [hc] at hf
    exact h.own j cr o hf hb
  · exact h.begun
  · exact h.within

inductive Turn (s : Tracking) : TrackerAct → Tracking → Prop where
  | idle (act : TrackerAct) : Turn s act s
  | sees (act : TrackerAct) (serial : String) (opened : s.1.closed = false) :
    Turn s act (s.1.registerDevice serial, s.2.sees s.1.nextCreation serial)
  /-- The `add` handler has no branch for a type other than `device`. -/
  | ignores (serial type : String) (opened : s.1.closed = false) (other : type ≠ "device") :
    Turn s (.add serial type) (s.1, s.2.loses serial)
  | misses (act : TrackerAct) (serial : String) (opened : s.1.closed = false)
      (absent : s.1.devices.has serial = false) : Turn s act (s.1, s.2.loses serial)
  | loses (act : TrackerAct) (serial : String) (opened : s.1.closed = false) :
    Turn s act (s.1.unregisterManagedDevice serial, s.2.loses serial)
  | fails : Turn s .error (s.1.unregisterManagedDevices, .none)
  | drops (k : Nat) (succeeds : Bool) :
    Turn s (.advance k succeeds) ({ s.1 with creations := s.1.creations.delete k }, s.2)
  | advances (k : Nat) (succeeds : Bool) (creation : Creation) (point : CreationPoint)
      (found : s.1.creations.get? k = some creation) :
    Turn s (.advance k succeeds)
      ({ s.1 with creations := s.1.creations.set k ⟨creation.serial, point⟩ }, s.2)
  | registers (k : Nat) (succeeds : Bool) (serial : String)
      (found : s.1.creations.get? k = some ⟨serial, .created⟩) :
    Turn s (.advance k succeeds)
      (AndroidManager.registerManagedDevice { s.1 with creations := s.1.creations.delete k } serial
        k, s.2.succeeded k)
  | closes : Turn s .close
      (AndroidManager.unregisterManagedDevices { s.1 with closed := true }, .none)
  | closed (closed : s.1.closed = true) : Turn s .close (s.1, .none)

theorem advance_turn (s : Tracking) (k : Nat) (succeeds : Bool) :
    s.Turn (.advance k succeeds) (step s (.advance k succeeds)) := by
  unfold Tracking.step
  cases hf : s.1.creations.get? k with
  | none =>
    simp only [AndroidManager.step, AndroidManager.advance, Sight.step, hf]
    exact .idle _
  | some cr =>
    obtain ⟨serial, pt⟩ := cr
    cases pt with
    | properties =>
      simp only [AndroidManager.step, AndroidManager.advance, Sight.step, hf]
      split
      · exact .drops k succeeds
      · exact .advances k succeeds _ .forwards hf
    | forwards =>
      simp only [AndroidManager.step, AndroidManager.advance, Sight.step, hf]
      split
      · exact .drops k succeeds
      · exact .advances k succeeds _ .created hf
    | created =>
      simp only [AndroidManager.step, AndroidManager.advance, Sight.step, hf, Option.map_some,
        if_true]
      exact .registers k succeeds serial hf

theorem step_turn (s : Tracking) (act : TrackerAct) : s.Turn act (step s act) := by
  cases act with
  | add serial ty =>
    simp only [Tracking.step, AndroidManager.step, AndroidManager.add, Sight.step, Sight.reports]
    cases hc : s.1.closed with
    | true => exact .idle _
    | false =>
      by_cases hd : ty = "device"
      · simp only [hd, if_true, Bool.false_eq_true, if_false]
        exact .sees _ serial hc
      · simp only [hd, Bool.false_eq_true, if_false]
        exact .ignores serial ty hc hd
  | change serial ty =>
    simp only [Tracking.step, AndroidManager.step, AndroidManager.change, Sight.step, Sight.reports]
    cases hc : s.1.closed with
    | true => exact .idle _
    | false =>
      by_cases hd : ty = "device"
      · simp only [hd, if_true, Bool.false_eq_true, if_false]
        exact .sees _ serial hc
      · simp only [hd, Bool.false_eq_true, if_false]
        split
        · exact .loses _ serial hc
        next ha => exact .misses _ serial hc (by simpa using ha)
  | remove serial =>
    simp only [Tracking.step, AndroidManager.step, AndroidManager.remove, Sight.step]
    cases hc : s.1.closed with
    | true => exact .idle _
    | false =>
      simp only [Bool.false_eq_true, if_false]
      split
      · exact .loses _ serial hc
      next ha => exact .misses _ serial hc (by simpa using ha)
  | error =>
    simp only [Tracking.step, AndroidManager.step, AndroidManager.trackerError, Sight.step]
    split
    · exact .idle _
    · exact .fails
  | advance k succeeds => exact advance_turn s k succeeds
  | close =>
    simp only [Tracking.step, AndroidManager.step, AndroidManager.close, Sight.step]
    split
    next hc => exact .closed hc
    · exact .closes

theorem Linked.step (h : s.Linked) (act : TrackerAct) : (step s act).Linked := by
  have turn := step_turn s act
  generalize Tracking.step s act = s' at turn ⊢
  cases turn with
  | idle => exact h
  | sees act serial ho => exact h.sees ho serial
  | ignores serial ty ho hot | misses act serial ho hab => exact h.loses h.agrees ho rfl rfl serial
  | loses act serial ho => exact h.loses (h.agrees.unregisterManagedDevice serial) ho rfl rfl serial
  | fails =>
    obtain ⟨hc, next⟩ := AndroidManager.creations_unregister (m := s.1) s.1.managedDevices.keys
    exact h.of_none h.agrees.unregisterManagedDevices AndroidManager.empty_unregistered hc next
  | drops k succeeds => exact h.dropped k
  | advances k succeeds cr pt hf => exact h.advanced hf pt
  | registers k succeeds serial hf => exact ((h.dropped k).succeeded k).registered serial k
  | closes =>
    obtain ⟨hc, next⟩ :=
      AndroidManager.creations_unregister (m := { s.1 with closed := true }) s.1.managedDevices.keys
    have ha : AndroidManager.Agrees { s.1 with closed := true } := h.agrees
    exact h.of_none ha.unregisterManagedDevices AndroidManager.empty_unregistered hc next
  | closed closed => exact h.of_none h.agrees (h.closed closed).2 rfl rfl

theorem initial_linked : initial.Linked where
  agrees := fun _ => rfl
  closed := nofun
  fresh := nofun
  own := nofun
  begun := nofun
  within := nofun

def Follows (s : Tracking) : Prop :=
  ∀ serial, s.1.managedDevices.has serial = true ↔ serial ∈ s.2.created

theorem Linked.matches_iff (h : s.Linked) : s.Matches ↔ s.Follows := by
  refine forall_congr' fun serial => ?_
  rw [h.agrees.has]
  have hw : serial ∈ s.2.seen ∧ serial ∈ s.2.created ↔ serial ∈ s.2.created :=
    ⟨And.right, fun hc => ⟨h.within serial hc, hc⟩⟩
  rw [hw]

theorem Follows.lost (h : s.Follows) (serial o : String) :
    (s.1.unregisterManagedDevice serial).managedDevices.has o = true ↔
      o ∈ (s.2.loses serial).created := by
  have hm : (s.1.unregisterManagedDevice serial).managedDevices =
    s.1.managedDevices.delete serial := rfl
  rw [hm, OrderedMap.has_delete, Bool.and_eq_true, h o, Bool.not_eq_true', decide_eq_false_iff_not]
  simp only [Sight.loses, List.mem_filter, decide_eq_true_eq]
  exact and_congr Iff.rfl ⟨Ne.symm, Ne.symm⟩

theorem Follows.unmanaged (hf : s.Follows) (hl : s.Linked)
    (hab : s.1.devices.has serial = false) : Follows (s.1, s.2.loses serial) := by
  intro o
  have gone : serial ∉ s.2.created := by
    rw [← hf serial, ← hl.agrees.has, hab]
    nofun
  have apart : o ∈ s.2.created → o ≠ serial := fun hc hs => gone (hs ▸ hc)
  rw [hf o]
  simp only [Sight.loses, List.mem_filter, decide_eq_true_eq]
  exact ⟨fun hc => ⟨hc, by simpa using apart hc⟩, And.left⟩

theorem mem_created_succeeded {w : Sight} {other : String} :
    other ∈ (w.succeeded k).created ↔ other ∈ w.created ∨ w.started.get? k = some other := by
  unfold Sight.succeeded
  split
  next serial hb => rw [mem_insertLast, hb, Option.some.injEq, eq_comm (a := other)]
  next hb => simp [hb]

theorem Follows.registered {succeeds : Bool} (hf : s.Follows) (hl : s.Linked)
    (hfo : s.1.creations.get? k = some ⟨serial, .created⟩) (hk : s.KeepsUp (.advance k succeeds)) :
    Follows
      (AndroidManager.registerManagedDevice { s.1 with creations := s.1.creations.delete k } serial k,
        s.2.succeeded k) := by
  intro other
  rw [mem_created_succeeded]
  cases hc : s.1.closed with
  | true =>
    have same : AndroidManager.registerManagedDevice
        { s.1 with creations := s.1.creations.delete k } serial k =
        { s.1 with creations := s.1.creations.delete k } := if_pos hc
    have blind : s.2.started.get? k = none := by
      rw [(hl.closed hc).1]
      rfl
    simp only [same, blind, reduceCtorEq, or_false]
    exact hf other
  | false =>
    have ha : AndroidManager.Agrees { s.1 with creations := s.1.creations.delete k } := hl.agrees
    rw [AndroidManager.managed_registerManaged ha hc]
    constructor
    · rintro (hm | rfl)
      · exact .inl ((hf other).mp hm)
      · exact (hk hc other hfo).symm
    · rintro (created | begun)
      · exact .inl ((hf other).mpr created)
      · exact .inr (hl.own k _ other hfo begun).symm

theorem follows_none {m : AndroidManager} (h : ∀ serial, m.managedDevices.has serial = false) :
    Follows (m, Sight.none) := by
  intro serial
  simp [h, Sight.none]

theorem Follows.step (hfo : s.Follows) (hl : s.Linked) (hk : s.KeepsUp act) :
    (step s act).Follows := by
  have turn := step_turn s act
  generalize Tracking.step s act = s' at turn ⊢
  cases turn with
  | idle => exact hfo
  | sees act serial ho => exact hfo
  | ignores serial ty ho hot => exact hfo.unmanaged hl (hk ho hot)
  | misses act serial ho ha => exact hfo.unmanaged hl ha
  | loses act serial ho => exact hfo.lost serial
  | fails | closes => exact follows_none AndroidManager.empty_unregistered
  | drops k succeeds => exact hfo
  | advances k succeeds cr pt hf => exact hfo
  | registers k succeeds serial hf => exact hfo.registered hl hf hk
  | closed closed => exact follows_none (hl.closed closed).2

theorem Follows.keepsUp (hl : s.Linked) (haf : (Tracking.step s act).Follows) : s.KeepsUp act := by
  cases act with
  | add serial ty =>
    intro ho hot
    have hh := haf serial
    simp only [Tracking.step, AndroidManager.step, AndroidManager.add, Sight.step, Sight.reports,
      ho, hot,
      Bool.false_eq_true, if_false, Sight.loses, List.mem_filter, ne_eq, not_true, decide_false,
      and_false, iff_false, Bool.not_eq_true] at hh
    rw [hl.agrees.has, hh]
  | advance k succeeds =>
    intro ho serial hf
    have hh := haf serial
    simp only [Tracking.step, AndroidManager.step, AndroidManager.advance, Sight.step, hf,
      Option.map_some, if_true] at hh
    have ha : AndroidManager.Agrees { s.1 with creations := s.1.creations.delete k } := hl.agrees
    rw [AndroidManager.managed_registerManaged ha ho, mem_created_succeeded] at hh
    exact (hh.mp (.inr rfl)).symm
  | change _ _ => trivial
  | remove _ => trivial
  | error => trivial
  | close => trivial

/-- The registered devices are those of the tracker in every state of a run, whether creations are
in flight or not, exactly if every step keeps up with it. After `close` there is none, whatever the
run. -/
theorem devices_follow_tracker (acts : List TrackerAct) :
    (Throughout step Matches initial acts ↔ Along step KeepsUp initial acts) ∧
      Throughout step (fun s => s.1.closed = true → s.1.devices.keys = []) initial acts := by
  have hl : ∀ (s : Tracking) (act : TrackerAct), s.Linked → (s.step act).Linked :=
    fun _ act hl => hl.step act
  constructor
  · have he : ∀ (s : Tracking) (act : TrackerAct), s.Linked → s.Matches →
        ((s.step act).Matches ↔ s.KeepsUp act) := by
      intro s act hl hag
      rw [(hl.step act).matches_iff]
      have hf := hl.matches_iff.mp hag
      exact ⟨fun ha => ha.keepsUp hl, fun hk => hf.step hl hk⟩
    have start : initial.Matches := fun serial => ⟨nofun, fun hs => nomatch hs.1⟩
    exact throughout_iff_along (fun s act hb _ => hl s act hb) he initial_linked start
  · apply throughout_mono _ (throughout_of_invariant hl initial_linked acts)
    intro s hl closed
    rw [List.eq_nil_iff_forall_not_mem]
    intro serial hi
    rw [OrderedMap.mem_keys_iff_has, hl.agrees.has, (hl.closed closed).2] at hi
    cases hi

def unplugged : List TrackerAct :=
  [.add "serial" "device", .advance 0 true, .remove "serial", .advance 0 true, .advance 0 true]

theorem unplugged_device_registered :
    let s := unplugged.foldl step initial
    s.1.creations.keys = [] ∧ s.1.devices.has "serial" = true ∧ "serial" ∉ s.2.seen ∧
      ¬ s.Matches := by
  refine ⟨by decide, by decide, by decide, ?_⟩
  intro ha
  have hs := ((ha "serial").mp (by decide)).1
  cases hs

/-- So it is when the tracker fails in the meantime. -/
example : (([.add "serial" "device", .advance 0 true, .error, .advance 0 true, .advance 0 true] :
    List TrackerAct).foldl step initial).1.devices.keys = ["serial"] := by decide

end Tracking

end DebugRouter.Device
