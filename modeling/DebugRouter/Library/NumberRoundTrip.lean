import DebugRouter.Library.JsonText

/-!
A rendered number reads back as itself. The shortest decimal is only kept when it does,
so what is left to show is that each of the four layouts denotes that decimal.
-/
namespace DebugRouter.Library.JsonText

open List Option JsNumber

def Stops (rest : List Char) : Prop :=
  ∀ c, rest.head? = some c → c.isDigit = false ∧ c ≠ '.' ∧ c ≠ 'e' ∧ c ≠ 'E'

def NoDigit (rest : List Char) : Prop := ∀ c, rest.head? = some c → c.isDigit = false

def AllDigits (ds : List Char) : Prop := ∀ c ∈ ds, c.isDigit = true

theorem Stops.noDigit {rest : List Char} (h : Stops rest) : NoDigit rest :=
  fun c hh => (h c hh).1

theorem noDigit_cons {c : Char} {xs : List Char} (h : c.isDigit = false) : NoDigit (c :: xs) := by
  intro d hh
  cases hh
  exact h

theorem digits_append {ds rest : List Char} (all : AllDigits ds) (hs : NoDigit rest) :
    digits (ds ++ rest) = ds ∧ afterDigits (ds ++ rest) = rest := by
  induction ds with
  | nil =>
    cases rest with
    | nil => exact ⟨rfl, rfl⟩
    | cons c rest =>
      have hh := hs c rfl
      simp [digits, afterDigits, hh]
  | cons d ds ih =>
    have first := all d (by simp)
    obtain ⟨hf, hb⟩ := ih (fun c mem => all c (by simp [mem]))
    simp only [digits, afterDigits] at hf hb
    simp [digits, afterDigits, first, hf, hb]

theorem allDigits_toDigits (n : Nat) : AllDigits (Nat.toDigits 10 n) :=
  fun _ mem => Nat.isDigit_of_mem_toDigits (by decide) (by decide) mem

theorem digitsValue_toDigits (n : Nat) : digitsValue (Nat.toDigits 10 n) = n :=
  Nat.ofDigitChars_toDigits (by decide) (by decide)

theorem allDigits_append {pre back : List Char} (hl : AllDigits pre)
    (hr : AllDigits back) : AllDigits (pre ++ back) := by
  intro c mem
  rcases mem_append.mp mem with mem | mem
  · exact hl c mem
  · exact hr c mem

theorem allDigits_zeros (n : Nat) : AllDigits (replicate n '0') := by
  intro c mem
  rw [eq_of_mem_replicate mem]
  decide

theorem head_toDigits {n : Nat} (h : 0 < n) : (Nat.toDigits 10 n).head? ≠ some '0' := by
  induction n using Nat.strongRecOn with
  | ind n ih =>
    rw [Nat.toDigits_eq_if (by decide)]
    split
    next hs =>
      simp only [head?_cons, ne_eq, some.injEq, Nat.digitChar_eq_zero]
      omega
    next hl =>
      have before := ih (n / 10) (by omega) (by omega)
      rw [head?_append_of_ne_nil _ Nat.toDigits_ne_nil]
      exact before

/- A whole part the grammar accepts: some digit, no leading zero. -/

structure WholePart (ds : List Char) : Prop where
  all : AllDigits ds
  nonempty : ds ≠ []
  leading : ds.head? = some '0' → ds = ['0']

theorem wholePart_toDigits (n : Nat) : WholePart (Nat.toDigits 10 n) where
  all := allDigits_toDigits n
  nonempty := Nat.toDigits_ne_nil
  leading := by
    intro hz
    rcases Nat.eq_zero_or_pos n with none | positive
    · subst none
      exact Nat.toDigits_zero 10
    · exact absurd hz (head_toDigits positive)

theorem wholePart_append {ds : List Char} (n : Nat) (hp : 0 < n) (all : AllDigits ds) :
    WholePart (Nat.toDigits 10 n ++ ds) where
  all := allDigits_append (allDigits_toDigits n) all
  nonempty := by simp [Nat.toDigits_ne_nil]
  leading := by
    intro hz
    rw [head?_append_of_ne_nil _ Nat.toDigits_ne_nil] at hz
    exact absurd hz (head_toDigits hp)

theorem wholePart_take {n count : Nat} (hp : 0 < n) (hso : 0 < count) :
    WholePart ((Nat.toDigits 10 n).take count) where
  all := fun c mem => allDigits_toDigits n c (mem_of_mem_take mem)
  nonempty := by
    have shape := Nat.toDigits_ne_nil (n := n) (b := 10)
    cases ds : Nat.toDigits 10 n with
    | nil => exact absurd ds shape
    | cons d ds => simp [Nat.pos_iff_ne_zero.mp hso]
  leading := by
    intro hz
    have same : ((Nat.toDigits 10 n).take count).head? = (Nat.toDigits 10 n).head? := by
      cases ds : Nat.toDigits 10 n with
      | nil => simp
      | cons d ds => simp [head?_take, Nat.pos_iff_ne_zero.mp hso]
    rw [same] at hz
    exact absurd hz (head_toDigits hp)

theorem parseFraction_none {xs : List Char} (h : xs.head? ≠ some '.') :
    parseFraction xs = some ([], xs) := by
  cases xs with
  | nil => rfl
  | cons c xs =>
    have other : c ≠ '.' := by simpa using h
    simp [parseFraction, other]

theorem parseFraction_digits {ds rest : List Char} (all : AllDigits ds) (hn : ds ≠ [])
    (hs : NoDigit rest) : parseFraction ('.' :: (ds ++ rest)) = some (ds, rest) := by
  obtain ⟨hf, hb⟩ := digits_append all hs
  simp [parseFraction, hf, hb, hn]

theorem parseExponent_none {xs : List Char} (h : Stops xs) : parseExponent xs = some (0, xs) := by
  cases xs with
  | nil => rfl
  | cons c xs =>
    obtain ⟨-, -, hl, hu⟩ := h c rfl
    simp [parseExponent, hl, hu]

variable (neg : Bool) (e : Int) (x : Double)

theorem parseExponent_digits {n : Nat} {rest : List Char} (h : NoDigit rest) :
    parseExponent ('e' :: (if neg then '-' else '+') :: (Nat.toDigits 10 n ++ rest)) =
      some (signed neg n, rest) := by
  obtain ⟨hf, hb⟩ := digits_append (allDigits_toDigits n) h
  cases neg <;> simp [parseExponent, parseSign, hf, hb, digitsValue_toDigits, Nat.toDigits_ne_nil]

theorem parseMagnitude_parts {whole fraction : List Char}
    {afterWhole afterFraction rest : List Char} {exponent : Int}
    (ok : WholePart whole) (hs : NoDigit afterWhole)
    (hfr : parseFraction afterWhole = some (fraction, afterFraction))
    (hex : parseExponent afterFraction = some (exponent, rest)) :
    parseMagnitude neg (whole ++ afterWhole) = some
      (ofDecimal neg (digitsValue (whole ++ fraction)) (exponent - fraction.length), rest) := by
  obtain ⟨hf, hb⟩ := digits_append ok.all hs
  have ha : ¬ (whole = [] ∨ (whole.head? = some '0' ∧ whole ≠ ['0'])) := by
    rintro (he | ⟨hz, hm⟩)
    · exact ok.nonempty he
    · exact hm (ok.leading hz)
  simp only [parseMagnitude, hf, hb, ha, if_false, hfr, hex, bind_eq_bind, bind_some]

theorem ofDecimal_congr {c d : Nat} {e f : Int} (h : decimalUnits c e = decimalUnits d f) :
    ofDecimal neg c e = ofDecimal neg d f := by
  unfold ofDecimal
  simp only [h]

theorem digitsValue_zeros (s zeros : Nat) :
    digitsValue (Nat.toDigits 10 s ++ replicate zeros '0') = s * 10 ^ zeros := by
  have value := digitsValue_toDigits s
  unfold digitsValue at value ⊢
  rw [Nat.ofDigitChars_append, value, Nat.ofDigitChars_replicate_zero, mul_comm]

theorem digitsValue_leading_zeros (zeros : Nat) (ds : List Char) :
    digitsValue ('0' :: (replicate zeros '0' ++ ds)) = digitsValue ds := by
  unfold digitsValue
  rw [Nat.ofDigitChars_cons, Nat.ofDigitChars_append, Nat.ofDigitChars_replicate_zero]
  simp

theorem exponentText_sign : signed (decide (e < 0)) e.natAbs = e := by
  unfold signed
  rcases lt_or_ge e 0 with hb | above
  · rw [if_pos (by simpa using hb)]
    omega
  · rw [if_neg (by simpa using above)]
    omega

theorem parseExponent_text {xs : List Char} (h : NoDigit xs) :
    parseExponent ('e' :: (if e < 0 then '-' else '+') :: (Nat.toDigits 10 e.natAbs ++ xs)) =
      some (e, xs) := by
  have read := parseExponent_digits (n := e.natAbs) (decide (e < 0)) h
  rw [exponentText_sign] at read
  simpa using read

theorem stops_exponent (xs : List Char) : NoDigit ('e' :: xs) := noDigit_cons (by decide)

section Layouts
variable {s : Nat} {ex : Int} {xs : List Char}
variable (neg : Bool)

theorem parse_integer_layout (hp : 0 < s) (zeros : Nat) (hst : Stops xs) :
    parseMagnitude neg (Nat.toDigits 10 s ++ replicate zeros '0' ++ xs) =
      some (ofDecimal neg s zeros, xs) := by
  have whole := wholePart_append s hp (allDigits_zeros zeros)
  have hn : xs.head? ≠ some '.' := fun hh => (hst '.' hh).2.1 rfl
  rw [parseMagnitude_parts neg whole hst.noDigit (parseFraction_none hn) (parseExponent_none hst)]
  have value := digitsValue_zeros s zeros
  have same := ofDecimal_congr neg (decimalUnits_shift s zeros)
  simp [value, same]

theorem parse_point_layout (hp : 0 < s) {count : Nat}
    (hi : 0 < count) (hm : count < (Nat.toDigits 10 s).length) (hs : Stops xs) :
    parseMagnitude neg
        ((Nat.toDigits 10 s).take count ++ '.' :: ((Nat.toDigits 10 s).drop count ++ xs)) =
      some (ofDecimal neg s (count - (Nat.toDigits 10 s).length), xs) := by
  have hf : AllDigits ((Nat.toDigits 10 s).drop count) :=
    fun c mem => allDigits_toDigits s c (mem_of_mem_drop mem)
  have hn : (Nat.toDigits 10 s).drop count ≠ [] := by simpa using hm
  rw [parseMagnitude_parts neg (wholePart_take hp hi) (noDigit_cons (by decide))
    (parseFraction_digits hf hn hs.noDigit) (parseExponent_none hs)]
  rw [take_append_drop, digitsValue_toDigits, length_drop]
  congr 3
  omega

theorem parse_small_layout (zeros : Nat) (h : Stops xs) :
    parseMagnitude neg (['0'] ++ '.' :: (replicate zeros '0' ++ Nat.toDigits 10 s ++ xs)) =
      some (ofDecimal neg s (-((zeros + (Nat.toDigits 10 s).length : Nat) : Int)), xs):= by
  have hf := allDigits_append (allDigits_zeros zeros) (allDigits_toDigits s)
  have hn : replicate zeros '0' ++ Nat.toDigits 10 s ≠ [] := by simp [Nat.toDigits_ne_nil]
  have whole : WholePart ['0'] := by simpa [Nat.toDigits_zero] using wholePart_toDigits 0
  rw [parseMagnitude_parts neg whole (noDigit_cons (by decide))
    (parseFraction_digits hf hn h.noDigit) (parseExponent_none h)]
  have value : digitsValue (['0'] ++ (replicate zeros '0' ++ Nat.toDigits 10 s)) = s := by
    rw [singleton_append, digitsValue_leading_zeros, digitsValue_toDigits]
  rw [value]
  congr 3
  simp

theorem parse_exponent_layout (hp : 0 < s) (e : Int)
    (hst : Stops xs) :
    parseMagnitude neg
        ((if (Nat.toDigits 10 s).length = 1 then Nat.toDigits 10 s
          else (Nat.toDigits 10 s).take 1 ++ '.' :: (Nat.toDigits 10 s).drop 1) ++
        'e' :: (if e < 0 then '-' else '+') :: (Nat.toDigits 10 e.natAbs ++ xs)) =
      some (ofDecimal neg s (e - ((Nat.toDigits 10 s).length - 1)), xs) := by
  have he := parseExponent_text e hst.noDigit
  split
  next hs =>
    rw [parseMagnitude_parts neg (wholePart_toDigits s) (stops_exponent _)
      (parseFraction_none (by simp)) he]
    simp [hs, digitsValue_toDigits]
  next hse =>
    have length := Nat.length_toDigits_pos (b := 10) (n := s)
    have hf : AllDigits ((Nat.toDigits 10 s).drop 1) :=
      fun c mem => allDigits_toDigits s c (mem_of_mem_drop mem)
    have hn : (Nat.toDigits 10 s).drop 1 ≠ [] := by
      simp only [ne_eq, drop_eq_nil_iff]
      omega
    rw [append_assoc, cons_append]
    rw [parseMagnitude_parts neg (wholePart_take hp Nat.one_pos)
      (noDigit_cons (by decide)) (parseFraction_digits hf hn (stops_exponent _))
      he]
    rw [take_append_drop, digitsValue_toDigits, length_drop]
    congr 3
    omega

end Layouts

theorem parseMagnitude_decimalText {s : Nat} (hp : 0 < s)
    (exponent : Int) {rest : List Char} (hst : Stops rest) :
    parseMagnitude neg (decimalText s exponent ++ rest) =
      some (ofDecimal neg s exponent, rest) := by
  simp only [decimalText]
  split
  next hla =>
    have same : ((exponent.toNat : Nat) : Int) = exponent := Int.toNat_of_nonneg hla.1
    rw [parse_integer_layout neg hp exponent.toNat hst, same]
  · split
    next hn hi =>
      have count : (0 : Int) ≤ (Nat.toDigits 10 s).length + exponent := by omega
      rw [append_assoc, cons_append,
        parse_point_layout neg hp (by omega) (by omega) hst]
      congr 3
      omega
    · split
      next hn hno hsm =>
        have hl := parse_small_layout (s := s) neg
          (-((Nat.toDigits 10 s).length + exponent)).toNat hst
        simp only [singleton_append, append_assoc] at hl
        simp only [cons_append, append_assoc, hl]
        congr 3
        omega
      · simp only [append_assoc, cons_append]
        have hl := parse_exponent_layout neg hp
          ((Nat.toDigits 10 s).length + exponent - 1) hst
        rw [hl]
        congr 3
        omega

variable {u : Nat}

theorem shortDecimal_exact {k : Nat} {decimal : Nat × Int} (h : shortDecimal u k = some decimal) :
    decimalUnits decimal.1 decimal.2 = u := by
  simp only [shortDecimal, ite_none_right_eq_some, some.injEq] at h
  obtain ⟨hr, rfl⟩ := h
  exact hr

theorem decimalUnits_expansion (h : quantum u ∣ u) :
    decimalUnits (u * 5 ^ unitExponent) (-unitExponent) = u := by
  have scaled : u * 5 ^ unitExponent * unit = u * 10 ^ unitExponent := by
    rw [unit, mul_assoc, ← mul_pow, show 5 * 2 = 10 from rfl]
  have he : (-unitExponent : Int) = Int.negSucc (unitExponent - 1) := by
    have : 0 < unitExponent := by
      unfold unitExponent
      decide
    omega
  have hr : unitExponent - 1 + 1 = unitExponent := by
    have : 0 < unitExponent := by
      unfold unitExponent
      decide
    omega
  rw [he, decimalUnits, hr, scaled]
  exact roundUnits_exact (Nat.pow_pos (by decide)) h

theorem shortestDecimal_exact (h : quantum u ∣ u) :
    decimalUnits (shortestDecimal u).1 (shortestDecimal u).2 = u := by
  unfold shortestDecimal
  cases hf : (range 17).findSome? fun i => shortDecimal u (i + 1) with
  | none => exact decimalUnits_expansion h
  | some decimal =>
    obtain ⟨i, -, hs⟩ := exists_of_findSome?_eq_some hf
    exact shortDecimal_exact hs

theorem decimalUnits_zero : decimalUnits 0 e = 0 := by
  cases e <;> simp [decimalUnits, roundUnits]

theorem magnitudeText_read (hw : quantum u ∣ u) {xs : List Char} (hs : Stops xs) :
    ∃ co ex, decimalUnits co ex = u ∧
      parseMagnitude neg (magnitudeText u ++ xs) =
        some (ofDecimal neg co ex, xs) := by
  unfold magnitudeText
  split
  next hi =>
    have hm : u / unit * unit = u := Nat.div_mul_cancel (Nat.dvd_of_mod_eq_zero hi.1)
    have hn : xs.head? ≠ some '.' := fun hh => (hs '.' hh).2.1 rfl
    refine ⟨u / unit, 0, ?_, ?_⟩
    · rw [decimalUnits_whole (hm.symm ▸ hw), hm]
    · rw [parseMagnitude_parts neg (wholePart_toDigits _) hs.noDigit
        (parseFraction_none hn) (parseExponent_none hs)]
      simp [digitsValue_toDigits]
  next hno =>
    have he := shortestDecimal_exact hw
    have positive : 0 < (shortestDecimal u).1 := by
      rcases Nat.eq_zero_or_pos (shortestDecimal u).1 with hz | positive
      · rw [hz, decimalUnits_zero] at he
        subst he
        simp at hno
      · exact positive
    exact ⟨_, _, he, parseMagnitude_decimalText neg positive _ hs⟩

theorem head_decimalText {s : Nat} (ex : Int) (xs : List Char) :
    ∃ c tail, decimalText s ex ++ xs = c :: tail ∧ c.isDigit = true := by
  have digit := allDigits_toDigits s
  have shape := Nat.toDigits_ne_nil (n := s) (b := 10)
  cases ds : Nat.toDigits 10 s with
  | nil => exact absurd ds shape
  | cons d more =>
    have first : d.isDigit = true := digit d (by simp [ds])
    simp only [decimalText, ds]
    split
    · exact ⟨d, _, rfl, first⟩
    · split
      next hi =>
        obtain ⟨count, hs⟩ : ∃ count, (((d :: more).length : Int) + ex).toNat = count + 1 :=
          ⟨(((d :: more).length : Int) + ex).toNat - 1, by omega⟩
        rw [hs]
        exact ⟨d, _, rfl, first⟩
      · split
        · exact ⟨'0', _, rfl, by decide⟩
        · split
          · exact ⟨d, _, rfl, first⟩
          · exact ⟨d, _, rfl, first⟩

theorem head_magnitudeText (u : Nat) (xs : List Char) :
    ∃ c tail, magnitudeText u ++ xs = c :: tail ∧ c.isDigit = true := by
  unfold magnitudeText
  split
  · have digit := allDigits_toDigits (u / unit)
    have shape := Nat.toDigits_ne_nil (n := u / unit) (b := 10)
    cases ds : Nat.toDigits 10 (u / unit) with
    | nil => exact absurd ds shape
    | cons d more => exact ⟨d, more ++ xs, rfl, digit d (by simp [ds])⟩
  · exact head_decimalText _ xs

theorem parseNumber_finiteText {xs : List Char} (h : Stops xs) :
    parseNumber (finiteText x ++ xs) = some (.finite x, xs) := by
  unfold finiteText
  split
  next hb =>
    obtain ⟨co, ex, hs, hr⟩ := magnitudeText_read true x.whole h
    have hv := ofDecimal_units hs
    rw [decide_eq_true hb] at hv
    simp only [cons_append, parseNumber, if_pos, hr, hv]
  next ha =>
    obtain ⟨co, ex, hs, hr⟩ := magnitudeText_read false x.whole h
    obtain ⟨c, tail, hsh, hd⟩ := head_magnitudeText x.units.natAbs xs
    have hv := ofDecimal_units hs
    have hn : c ≠ '-' := by
      rintro rfl
      exact absurd hd (by decide)
    rw [decide_eq_false ha] at hv
    rw [hsh] at hr ⊢
    simp only [parseNumber, hn, if_false, hr, hv]

theorem head_finiteText (xs : List Char) :
    ∃ c tail, finiteText x ++ xs = c :: tail ∧ (c = '-' ∨ c.isDigit = true) := by
  unfold finiteText
  split
  · exact ⟨'-', _, rfl, .inl rfl⟩
  · obtain ⟨c, tail, hs, hd⟩ := head_magnitudeText x.units.natAbs xs
    exact ⟨c, tail, hs, .inr hd⟩

end DebugRouter.Library.JsonText
