import DebugRouter.Library.Coercion
import DebugRouter.Library.NumberRoundTrip

/-!
`Number(text)` reads every JSON number as `JSON.parse` does, so `Number(String(x))` is `x` for a
finite `x`.
-/
namespace DebugRouter.Library

open JsonText List

def NumberChar (c : Char) : Prop := c.isDigit = true ∨ c ∈ ['.', 'e', 'E', '+', '-']

variable {c : Char} {cs rest : List Char} {neg : Bool} {n : JsNumber}

theorem NumberChar.not_space (h : NumberChar c) : isStrWhiteSpace c = false := by
  rcases h with hd | mark
  · simp only [Char.isDigit, Bool.and_eq_true, decide_eq_true_eq, ge_iff_le,
      UInt32.le_iff_toNat_le] at hd
    have low : 48 ≤ c.toNat := hd.1
    have hh : c.toNat ≤ 57 := hd.2
    simp only [isStrWhiteSpace, mem_cons, not_mem_nil, or_false, Bool.or_eq_false_iff,
      decide_eq_false_iff_not, Bool.and_eq_false_iff]
    omega
  · simp only [mem_cons, not_mem_nil, or_false] at mark
    rcases mark with rfl | rfl | rfl | rfl | rfl <;> decide

theorem trimText_of_not_space (h : ∀ c ∈ cs, isStrWhiteSpace c = false) : trimText cs = cs := by
  have kept : ∀ ds : List Char, (∀ c ∈ ds, isStrWhiteSpace c = false) →
      ds.dropWhile isStrWhiteSpace = ds := by
    intro ds h
    cases ds with
    | nil => rfl
    | cons d ds => rw [dropWhile_cons_of_neg (by simp [h d mem_cons_self])]
  unfold trimText
  rw [kept cs h, kept cs.reverse fun c mem => h c (mem_reverse.mp mem), reverse_reverse]

/- Everything before the rest of a number belongs to it -/

theorem numberChar_digits (mem : c ∈ digits cs) : NumberChar c :=
  .inl (all_eq_true.mp all_takeWhile c mem)

theorem mem_digits_or (mem : c ∈ cs) : NumberChar c ∨ c ∈ afterDigits cs := by
  rw [← takeWhile_append_dropWhile (p := Char.isDigit) (l := cs), mem_append] at mem
  exact mem.imp_left numberChar_digits

theorem mem_parseSign (mem : c ∈ cs) : NumberChar c ∨ c ∈ (parseSign cs).2 := by
  cases cs with
  | nil => cases mem
  | cons d ds =>
    rw [parseSign]
    split
    next hm =>
      rcases mem_cons.mp mem with rfl | later
      · exact .inl (.inr (by simp [hm]))
      · exact .inr later
    split
    next hp =>
      rcases mem_cons.mp mem with rfl | later
      · exact .inl (.inr (by simp [hp]))
      · exact .inr later
    · exact .inr mem

theorem mem_parseExponent {ex : Int} (hr : parseExponent cs = some (ex, rest))
    (mem : c ∈ cs) : NumberChar c ∨ c ∈ rest := by
  cases cs with
  | nil => cases mem
  | cons d ds =>
    rw [parseExponent] at hr
    split at hr
    next hm =>
      dsimp only at hr
      split at hr
      · cases hr
      simp only [Option.some.injEq, Prod.mk.injEq] at hr
      rcases mem_cons.mp mem with rfl | later
      · exact .inl (.inr (by rcases hm with rfl | rfl <;> decide))
      · rw [← hr.2]
        exact (mem_parseSign later).elim .inl mem_digits_or
    · cases hr
      exact .inr mem

theorem mem_parseFraction {fraction : List Char} (hr : parseFraction cs = some (fraction, rest))
    (mem : c ∈ cs) : NumberChar c ∨ c ∈ rest := by
  cases cs with
  | nil => cases mem
  | cons d ds =>
    rw [parseFraction] at hr
    split at hr
    next hp =>
      split at hr
      · cases hr
      cases hr
      rcases mem_cons.mp mem with rfl | later
      · exact .inl (.inr (by simp [hp]))
      · exact mem_digits_or later
    · cases hr
      exact .inr mem

theorem parseMagnitude_inv (h : parseMagnitude neg cs = some (n, rest)) :
    digits cs ≠ [] ∧
      ∃ fraction afterFraction ex, parseFraction (afterDigits cs) = some (fraction, afterFraction) ∧
      parseExponent afterFraction = some (ex, rest) ∧
      n = JsNumber.ofDecimal neg (digitsValue (digits cs ++ fraction)) (ex - fraction.length) := by
  unfold parseMagnitude at h
  dsimp only at h
  split at h
  · cases h
  rename_i ha
  refine ⟨fun hem => ha (.inl hem), ?_⟩
  cases hf : parseFraction (afterDigits cs) with
  | none => simp [hf] at h
  | some found =>
    obtain ⟨fraction, afterFraction⟩ := found
    cases he : parseExponent afterFraction with
    | none => simp [hf, he] at h
    | some found =>
      obtain ⟨ex, last⟩ := found
      simp only [hf, he, Option.bind_eq_bind, Option.bind_some, Option.some.injEq, Prod.mk.injEq] at h
      exact ⟨fraction, afterFraction, ex, rfl, h.2 ▸ he, h.1.symm⟩

theorem numberChar_of_parseMagnitude
    (hr : parseMagnitude neg cs = some (n, [])) (mem : c ∈ cs) : NumberChar c := by
  obtain ⟨-, fraction, afterFraction, ex, hf, he, -⟩ := parseMagnitude_inv hr
  rcases mem_digits_or mem with hp | later
  · exact hp
  rcases mem_parseFraction hf later with hp | later
  · exact hp
  rcases mem_parseExponent he later with hp | none
  · exact hp
  · cases none

theorem strDecimal_of_parseMagnitude
    (h : parseMagnitude neg cs = some (n, [])) : strDecimal neg cs = some n := by
  obtain ⟨hs, fraction, afterFraction, ex, hf, he, rfl⟩ := parseMagnitude_inv h
  have not_word : cs ≠ "Infinity".toList := by
    rintro rfl
    exact hs (by decide)
  have parts : (if (afterDigits cs).head? = some '.' then digits (afterDigits cs).tail else []) =
      fraction ∧
      (if (afterDigits cs).head? = some '.' then afterDigits (afterDigits cs).tail
        else afterDigits cs) =
        afterFraction := by
    cases ha : afterDigits cs with
    | nil =>
      rw [ha] at hf
      cases hf
      exact ⟨rfl, rfl⟩
    | cons d ds =>
      rw [ha, parseFraction] at hf
      split at hf
      next hpo =>
        split at hf
        · cases hf
        · cases hf
          simp [hpo]
      next hn =>
        cases hf
        simp [hn]
  unfold strDecimal
  rw [if_neg not_word]
  dsimp only
  rw [parts.1, parts.2, if_neg (by simp [hs]), he]
  rfl

theorem stringToNumber_of_parseNumber (h : parseNumber cs = some (n, [])) :
    stringToNumber cs = some n := by
  cases cs with
  | nil => cases h
  | cons c cs =>
    rw [parseNumber] at h
    split at h
    next hmi =>
      subst hmi
      have hp : ∀ d ∈ '-' :: cs, isStrWhiteSpace d = false := by
        intro d mem
        rcases mem_cons.mp mem with rfl | later
        · decide
        · exact (numberChar_of_parseMagnitude h later).not_space
      rw [stringToNumber, trimText_of_not_space hp]
      exact strDecimal_of_parseMagnitude h
    next hn =>
      have hp : ∀ d ∈ c :: cs, NumberChar d := fun d => numberChar_of_parseMagnitude h
      have no_plus : c ≠ '+' := by
        rintro rfl
        exact (parseMagnitude_inv h).1 rfl
      rw [stringToNumber, trimText_of_not_space fun d mem => (hp d mem).not_space]
      have value := strDecimal_of_parseMagnitude h
      split
      · contradiction
      next hs =>
        cases hs
        contradiction
      next hs =>
        cases hs
        contradiction
      · -- No radix mark is written in a JSON number.
        rename_i x rest hs
        have mark : ∀ d ∈ ['x', 'X', 'o', 'O', 'b', 'B'], x ≠ d := by
          rintro d mem rfl
          have second : NumberChar x := hp x (by simp [hs])
          simp only [mem_cons, not_mem_nil, or_false] at mem
          rcases mem with rfl | rfl | rfl | rfl | rfl | rfl <;> revert second <;> simp [NumberChar]
        rw [if_neg (by simp [mark]), if_neg (by simp [mark]), if_neg (by simp [mark]), ← hs]
        exact value
      · exact value

theorem stringToNumber_finiteText (x : Double) :
    stringToNumber (finiteText x) = some (.finite x) := by
  have read : parseNumber (finiteText x ++ []) = some (.finite x, []) :=
    parseNumber_finiteText x (by rintro c ⟨⟩)
  rw [append_nil] at read
  exact stringToNumber_of_parseNumber read

end DebugRouter.Library
