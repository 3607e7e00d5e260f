import Mathlib.Data.Nat.Log
import Mathlib.Tactic.Positivity
import Mathlib.Tactic.Ring

/-!
Binary64 numbers as scaled integers. Every finite double is a multiple of 2^-1074, so a
double is the integer that counts those units and equality is integer equality. The two
zeros are one value here; not-a-number cannot be read from JSON and is left out.
-/
namespace DebugRouter.Library

/- The two exponents are irreducible, so that no tactic writes the powers out. -/

@[irreducible] def unitExponent : Nat := 1074

@[irreducible] def overflowExponent : Nat := 1024

def unit : Nat := 2 ^ unitExponent

theorem unit_pos : 0 < unit := Nat.two_pow_pos _

/-- The spacing of doubles around a magnitude, in units. -/
def quantum (magnitude : Nat) : Nat := 2 ^ (Nat.log2 magnitude - 52)

/-- `num / den` units rounded to a 53-bit significand, ties to even. -/
def roundUnits (num den : Nat) : Nat :=
  let q := quantum (num / den)
  let step := den * q
  let k := num / step
  let r := num % step
  q * (if 2 * r < step then k else if step < 2 * r then k + 1 else k + k % 2)

theorem quantum_pos (n : Nat) : 0 < quantum n := Nat.two_pow_pos _

variable {k : Nat}

theorem quantum_dvd_of_le (h : k ≤ 2 ^ 53) : quantum k ∣ k := by
  rcases Nat.lt_or_eq_of_le h with hb | top
  · have one : quantum k = 1 := by
      unfold quantum
      rcases Nat.eq_zero_or_pos k with hz | positive
      · simp [hz]
      · have bits := (Nat.log2_lt (by omega)).mpr hb
        rw [show Nat.log2 k - 52 = 0 by omega, pow_zero]
    rw [one]
    exact one_dvd k
  · subst top
    decide

theorem quantum_dvd_scaled (e : Nat) (h : k ≤ 2 ^ 53) : quantum (2 ^ e * k) ∣ 2 ^ e * k := by
  rcases Nat.eq_zero_or_pos k with hz | positive
  · simp [hz]
  · have bits : Nat.log2 (2 ^ e * k) = e + Nat.log2 k := by
      have low := Nat.log2_self_le (n := k) (by omega)
      have hh := Nat.lt_log2_self (n := k)
      rw [Nat.log2_eq_iff (by positivity), pow_add, pow_add, pow_add, mul_assoc]
      constructor
      · exact Nat.mul_le_mul_left _ low
      · rw [pow_succ] at hh
        exact Nat.mul_lt_mul_of_pos_left hh (Nat.two_pow_pos e)
    have split : quantum (2 ^ e * k) ∣ 2 ^ e * quantum k := by
      unfold quantum
      rw [bits, ← pow_add]
      exact pow_dvd_pow 2 (by omega)
    exact split.trans (Nat.mul_dvd_mul_left _ (quantum_dvd_of_le h))

theorem div_quantum_lt (n : Nat) : n / quantum n < 2 ^ 53 := by
  rw [Nat.div_lt_iff_lt_mul (quantum_pos n)]
  rcases Nat.eq_zero_or_pos n with hz | positive
  · simp [hz, quantum]
  · have upper : n < 2 ^ (Nat.log2 n + 1) := Nat.lt_log2_self
    refine upper.trans_le ?_
    unfold quantum
    rw [← pow_add]
    exact Nat.pow_le_pow_right (by decide) (by omega)

theorem quantum_dvd_roundUnits (num den : Nat) :
    quantum (roundUnits num den) ∣ roundUnits num den := by
  have significand : num / (den * quantum (num / den)) < 2 ^ 53 := by
    rw [← Nat.div_div_eq_div_mul]
    exact div_quantum_lt _
  unfold roundUnits
  refine quantum_dvd_scaled _ ?_
  split
  · omega
  · split <;> omega

theorem roundUnits_exact {u den : Nat} (hp : 0 < den) (hw : quantum u ∣ u) :
    roundUnits (u * den) den = u := by
  obtain ⟨k, hs⟩ := hw
  have floor : u * den / den = u := Nat.mul_div_cancel u hp
  have step_pos : 0 < den * quantum u := Nat.mul_pos hp (quantum_pos u)
  have hm : u * den = den * quantum u * k := by
    calc u * den = quantum u * k * den := by rw [← hs]
      _ = den * quantum u * k := by ring
  unfold roundUnits
  simp only [floor]
  rw [hm, Nat.mul_div_cancel_left _ step_pos, Nat.mul_mod_right]
  simp [step_pos, ← hs]

/-- A finite double, by its number of units. -/
structure Double where
  units : Int
  whole : quantum units.natAbs ∣ units.natAbs
  bounded : units.natAbs < 2 ^ overflowExponent * unit

theorem Double.eq_of_units {x y : Double} (h : x.units = y.units) : x = y := by
  cases x
  cases y
  cases h
  rfl

instance : DecidableEq Double := fun x y =>
  decidable_of_iff (x.units = y.units) ⟨Double.eq_of_units, congrArg _⟩

inductive JsNumber where
  | finite (value : Double)
  | infinite (negative : Bool)
  deriving DecidableEq

namespace JsNumber

def signed (negative : Bool) (magnitude : Nat) : Int :=
  if negative then -(magnitude : Int) else magnitude

theorem natAbs_signed (neg : Bool) (magnitude : Nat) : (signed neg magnitude).natAbs = magnitude := by
  cases neg <;> simp [signed]

/-- The number of a magnitude in units, an infinity when it is too large. -/
def ofUnits (negative : Bool) (u : Nat) (whole : quantum u ∣ u) : JsNumber :=
  if bounded : u < 2 ^ overflowExponent * unit then
    finite ⟨signed negative u,
      by rw [natAbs_signed]; exact whole, by rw [natAbs_signed]; exact bounded⟩
  else infinite negative

/-- The magnitude nearest to `coefficient · 10 ^ exponent`. -/
def decimalUnits (coefficient : Nat) : Int → Nat
  | .ofNat e => roundUnits (coefficient * 10 ^ e * unit) 1
  | .negSucc e => roundUnits (coefficient * unit) (10 ^ (e + 1))

theorem quantum_dvd_decimalUnits (coefficient : Nat) (exponent : Int) :
    quantum (decimalUnits coefficient exponent) ∣ decimalUnits coefficient exponent := by
  cases exponent <;> exact quantum_dvd_roundUnits _ _

def ofDecimal (negative : Bool) (coefficient : Nat) (exponent : Int) : JsNumber :=
  ofUnits negative (decimalUnits coefficient exponent) (quantum_dvd_decimalUnits coefficient exponent)

def ofInt (n : Int) : JsNumber := ofDecimal (decide (n < 0)) n.natAbs 0

def toInt? : JsNumber → Option Int
  | finite x => if x.units % unit = 0 then some (x.units / unit) else none
  | infinite _ => none

/-- `Number.isSafeInteger`, with the integer found. -/
def toSafeInteger? (x : JsNumber) : Option Int :=
  x.toInt?.filter fun n => n.natAbs < 2 ^ 53

theorem decimalUnits_whole {n : Nat} (h : quantum (n * unit) ∣ n * unit) :
    decimalUnits n 0 = n * unit := by
  have units := roundUnits_exact Nat.one_pos h
  simpa [decimalUnits] using units

theorem decimalUnits_shift (co zeros : Nat) :
    decimalUnits (co * 10 ^ zeros) 0 = decimalUnits co zeros := by
  simp [decimalUnits]

variable {x : Double}

theorem ofDecimal_units {co : Nat} {ex : Int}
    (h : decimalUnits co ex = x.units.natAbs) :
    ofDecimal (decide (x.units < 0)) co ex = finite x := by
  unfold ofDecimal ofUnits
  rw [dif_pos (by rw [h]; exact x.bounded)]
  congr 1
  refine Double.eq_of_units ?_
  simp only [h, signed]
  rcases lt_or_ge x.units 0 with hb | above
  · rw [if_pos (by simpa using hb)]
    omega
  · rw [if_neg (by simpa using above)]
    omega

theorem whole_of_small {n : Nat} (h : n ≤ 2 ^ 53) : quantum (n * unit) ∣ n * unit := by
  rw [mul_comm]
  exact quantum_dvd_scaled unitExponent h

theorem bounded_of_small {n : Nat} (h : n ≤ 2 ^ 53) : n * unit < 2 ^ overflowExponent * unit := by
  have he : 53 < overflowExponent := by
    unfold overflowExponent
    decide
  exact Nat.mul_lt_mul_of_pos_right (h.trans_lt (Nat.pow_lt_pow_right (by decide) he)) unit_pos

theorem toInt?_of_units {n : Int} (h : x.units = n * unit) : (finite x).toInt? = some n := by
  have hn : (unit : Int) ≠ 0 := by
    have := unit_pos
    omega
  have hd : x.units % unit = 0 := by
    rw [h]
    exact Int.mul_emod_left n unit
  simp only [toInt?, hd, if_pos]
  rw [h, Int.mul_ediv_cancel _ hn]

theorem natAbs_mul_unit (n : Int) : (n * (unit : Int)).natAbs = n.natAbs * unit := by
  rw [Int.natAbs_mul, Int.natAbs_natCast]

def smallDouble (n : Int) (small : n.natAbs ≤ 2 ^ 53) : Double where
  units := n * unit
  whole := by
    rw [natAbs_mul_unit]
    exact whole_of_small small
  bounded := by
    rw [natAbs_mul_unit]
    exact bounded_of_small small

theorem ofInt_small {n : Int} (h : n.natAbs ≤ 2 ^ 53) : ofInt n = finite (smallDouble n h) := by
  have sign : decide (n < 0) = decide ((smallDouble n h).units < 0) := by
    have above : (0 : Int) < unit := by exact_mod_cast unit_pos
    have same : (smallDouble n h).units = n * unit := rfl
    rw [same, decide_eq_decide]
    constructor
    · exact fun hb => Int.mul_neg_of_neg_of_pos hb above
    · intro hb
      by_contra ha
      exact absurd hb (not_lt.mpr (Int.mul_nonneg (not_lt.mp ha) above.le))
  unfold ofInt
  rw [sign]
  refine ofDecimal_units ?_
  rw [decimalUnits_whole (whole_of_small h)]
  exact (natAbs_mul_unit n).symm

theorem toInt?_ofInt {n : Int} (h : n.natAbs ≤ 2 ^ 53) : (ofInt n).toInt? = some n := by
  rw [ofInt_small h]
  exact toInt?_of_units rfl

theorem toSafeInteger?_ofInt {n : Int} (h : n.natAbs < 2 ^ 53) :
    (ofInt n).toSafeInteger? = some n := by
  unfold toSafeInteger?
  rw [toInt?_ofInt h.le]
  simpa [Option.filter] using h

end JsNumber

end DebugRouter.Library
