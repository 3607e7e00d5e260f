import Mathlib.Data.List.Basic
import Mathlib.Data.UInt

/-!
Bytes on a wire: 32-bit words with the high byte first, and text in UTF-8. The decoder is the
one of web browsers: it never fails, and puts U+FFFD for what is not UTF-8.
-/
namespace DebugRouter.Library

open List

/- Words -/

def word (n : Nat) : List UInt8 :=
  [UInt8.ofNat (n / 2 ^ 24), UInt8.ofNat (n / 2 ^ 16), UInt8.ofNat (n / 2 ^ 8), UInt8.ofNat n]

def wordValue (bytes : List UInt8) : Nat := bytes.foldl (fun n b => n * 2 ^ 8 + b.toNat) 0

@[simp] theorem length_word (n : Nat) : (word n).length = 4 := rfl

theorem wordValue_word_mod (n : Nat) : wordValue (word n) = n % 2 ^ 32 := by
  simp only [wordValue, word, foldl_cons, foldl_nil, UInt8.toNat_ofNat']
  omega

theorem wordValue_word {n : Nat} (h : n < 2 ^ 32) : wordValue (word n) = n := by
  rw [wordValue_word_mod, Nat.mod_eq_of_lt h]

/- Text -/

namespace Utf8

def encode (text : List Char) : List UInt8 := text.flatMap String.utf8EncodeChar

/-- A character of which `needed` bytes are missing; the next one is between `low` and `high`. -/
structure Partial where
  code : Nat
  needed : Nat
  low : Nat
  high : Nat
  deriving DecidableEq

def lead (b : Nat) : Option Partial :=
  if 0xC2 ≤ b ∧ b ≤ 0xDF then some ⟨b - 0xC0, 1, 0x80, 0xBF⟩
  else if 0xE0 ≤ b ∧ b ≤ 0xEF then
    some ⟨b - 0xE0, 2, if b = 0xE0 then 0xA0 else 0x80, if b = 0xED then 0x9F else 0xBF⟩
  else if 0xF0 ≤ b ∧ b ≤ 0xF4 then
    some ⟨b - 0xF0, 3, if b = 0xF0 then 0x90 else 0x80, if b = 0xF4 then 0x8F else 0xBF⟩
  else none

def replacement : Char := Char.ofNat 0xFFFD

def start (b : Nat) : List Char × Option Partial :=
  if b < 0x80 then ([Char.ofNat b], none)
  else
    match lead b with
    | some begun => ([], some begun)
    | none => ([replacement], none)

/-- A byte that cannot continue a character ends it and is looked at again. -/
def step : Option Partial → Nat → List Char × Option Partial
  | none, b => start b
  | some p, b =>
    if p.low ≤ b ∧ b ≤ p.high then
      let code := p.code * 64 + (b - 0x80)
      if p.needed = 1 then ([Char.ofNat code], none) else ([], some ⟨code, p.needed - 1, 0x80, 0xBF⟩)
    else (replacement :: (start b).1, (start b).2)

def decodeFrom : Option Partial → List UInt8 → List Char
  | none, [] => []
  | some _, [] => [replacement]
  | state, b :: rest => (step state b.toNat).1 ++ decodeFrom (step state b.toNat).2 rest

def decode (bytes : List UInt8) : List Char := decodeFrom none bytes

variable {rest : List UInt8}

theorem decodeFrom_cons (state : Option Partial) (b : Nat) (h : b < 256) :
    decodeFrom state (UInt8.ofNat b :: rest) =
      (step state b).1 ++ decodeFrom (step state b).2 rest := by
  have same : (UInt8.ofNat b).toNat = b := by rw [UInt8.toNat_ofNat', Nat.mod_eq_of_lt h]
  cases state <;> rw [decodeFrom, same]

variable {b : Nat} {p : Partial}

theorem decodeFrom_ascii (h : b < 0x80) :
    decodeFrom none (UInt8.ofNat b :: rest) = Char.ofNat b :: decodeFrom none rest := by
  rw [decodeFrom_cons none b (by omega)]
  simp [step, start, h]

theorem decodeFrom_lead (hh : 0x80 ≤ b) (hs : b < 256) (hb : lead b = some p) :
    decodeFrom none (UInt8.ofNat b :: rest) = decodeFrom (some p) rest := by
  rw [decodeFrom_cons none b hs]
  simp [step, start, hb, Nat.not_lt.mpr hh]

theorem decodeFrom_next (low : p.low ≤ b) (hh : b ≤ p.high) (hs : b < 256) (hm : p.needed ≠ 1) :
    decodeFrom (some p) (UInt8.ofNat b :: rest) =
      decodeFrom (some ⟨p.code * 64 + (b - 0x80), p.needed - 1, 0x80, 0xBF⟩) rest := by
  rw [decodeFrom_cons _ b hs]
  simp [step, low, hh, hm]

theorem decodeFrom_last (low : p.low ≤ b) (hh : b ≤ p.high) (hs : b < 256) (hl : p.needed = 1) :
    decodeFrom (some p) (UInt8.ofNat b :: rest) =
      Char.ofNat (p.code * 64 + (b - 0x80)) :: decodeFrom none rest := by
  rw [decodeFrom_cons _ b hs]
  simp [step, low, hh, hl]

theorem lead_two : ∀ k < 32, 2 ≤ k → lead (k + 192) = some ⟨k, 1, 0x80, 0xBF⟩ := by decide

theorem lead_three : ∀ k < 16, lead (k + 224) =
    some ⟨k, 2, if k = 0 then 0xA0 else 0x80, if k = 13 then 0x9F else 0xBF⟩ := by decide

theorem lead_four : ∀ k < 5, lead (k + 240) =
    some ⟨k, 3, if k = 0 then 0x90 else 0x80, if k = 4 then 0x8F else 0xBF⟩ := by decide

theorem decodeFrom_utf8EncodeChar (c : Char) :
    decodeFrom none (String.utf8EncodeChar c ++ rest) = c :: decodeFrom none rest := by
  have hv : c.toNat < 0xD800 ∨ 0xDFFF < c.toNat ∧ c.toNat < 0x110000 := c.valid
  have hc : ∀ n, n = c.toNat → Char.ofNat n = c := by
    rintro n rfl
    exact Char.ofNat_toNat c
  have range : c.val.toNat = c.toNat := rfl
  unfold String.utf8EncodeChar
  rw [range]
  generalize c.toNat = v at hv hc
  dsimp only
  split
  · rw [singleton_append, decodeFrom_ascii (by omega), hc v rfl]
  split
  · rw [Nat.mod_eq_of_lt (show v / 64 < 32 by omega)]
    simp only [cons_append, nil_append]
    rw [decodeFrom_lead (by omega) (by omega) (lead_two _ (by omega) (by omega)),
      decodeFrom_last (by simp) (by simp only; omega) (by omega) rfl, hc _ (by simp only; omega)]
  split
  · rw [Nat.mod_eq_of_lt (show v / 4096 < 16 by omega)]
    simp only [cons_append, nil_append]
    rw [decodeFrom_lead (by omega) (by omega) (lead_three _ (by omega)),
      decodeFrom_next (by simp only; split <;> omega) (by simp only; split <;> omega) (by omega)
        (by simp),
      decodeFrom_last (by simp) (by simp only; omega) (by omega) rfl, hc _ (by simp only; omega)]
  · rw [Nat.mod_eq_of_lt (show v / 262144 < 8 by omega)]
    simp only [cons_append, nil_append]
    rw [decodeFrom_lead (by omega) (by omega) (lead_four _ (by omega)),
      decodeFrom_next (by simp only; split <;> omega) (by simp only; split <;> omega) (by omega)
        (by simp), decodeFrom_next (by simp) (by simp only; omega) (by omega) (by simp),
      decodeFrom_last (by simp) (by simp only; omega) (by omega) rfl, hc _ (by simp only; omega)]

theorem decode_encode (text : List Char) : decode (encode text) = text := by
  unfold decode encode
  induction text with
  | nil => rfl
  | cons c rest ih => rw [flatMap_cons, decodeFrom_utf8EncodeChar, ih]

end Utf8

end DebugRouter.Library
