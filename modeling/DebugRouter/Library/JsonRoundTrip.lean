import DebugRouter.Library.NumberRoundTrip

/-!
`JSON.parse` after `JSON.stringify`: the value comes back with its infinities turned
into `null` and repeated assignments to a key collapsed, so every field reads the same.
-/
namespace DebugRouter.Library

open List Json

mutual
def Json.normalize : Json → Json
  | .num (.infinite _) => .null
  | .arr items => .arr (normalizeItems items)
  | .obj fields => .obj (assignAll (normalizeFields fields))
  | .null => .null
  | .bool b => .bool b
  | .num (.finite x) => .num (.finite x)
  | .str s => .str s
def Json.normalizeItems : List Json → List Json
  | [] => []
  | v :: rest => v.normalize :: normalizeItems rest
def Json.normalizeFields : List (String × Json) → List (String × Json)
  | [] => []
  | (key, v) :: rest => (key, v.normalize) :: normalizeFields rest
end

theorem Json.normalizeFields_eq (fields : List (String × Json)) :
    normalizeFields fields = fields.map fun e => (e.1, e.2.normalize) := by
  induction fields with
  | nil => rfl
  | cons entry rest ih => simp [normalizeFields, ih]

theorem Json.normalizeItems_eq (items : List Json) : normalizeItems items = items.map normalize := by
  induction items with
  | nil => rfl
  | cons v rest ih => simp [normalizeItems, ih]

theorem Json.get?_normalize (v : Json) (key : String) :
    v.normalize.get? key = (v.get? key).map normalize := by
  cases v with
  | obj fields =>
    simp only [normalize, get?, lookupLast_assignAll, normalizeFields_eq]
    exact lookupLast_map normalize key fields
  | num n => cases n <;> rfl
  | null | bool _ | str _ | arr _ => rfl

theorem Json.asString?_normalize (v : Json) : v.normalize.asString? = v.asString? := by
  cases v with
  | num n => cases n <;> rfl
  | null | bool _ | str _ | arr _ | obj _ => rfl

theorem Json.map_normalize_eq_str {v : Option Json} {s : String} :
    v.map normalize = some (.str s) ↔ v = some (.str s) := by
  cases v with
  | none => simp
  | some v =>
    cases v with
    | num n => cases n <;> simp [normalize]
    | null | bool _ | str _ | arr _ | obj _ => simp [normalize]

namespace JsonText

/- Strings -/

theorem hexValue_hexDigit : ∀ n < 16, hexValue (hexDigit n) = some n := by decide

section Units
variable {rest after : List Char} {units : List Nat}

theorem parseUnits_quote : parseUnits ('"' :: rest) = some ([], rest) := by
  rw [parseUnits.eq_def]
  simp

theorem parseUnits_raw {c : Char} (hno : c ≠ '"') (hn : c ≠ '\\')
    (hp : ¬ c.toNat < 32) (ht : parseUnits rest = some (units, after)) :
    parseUnits (c :: rest) = some (c.toNat :: units, after) := by
  rw [parseUnits.eq_def]
  simp [hno, hn, hp, ht]

theorem parseUnits_escaped {e : Char} {unit : Nat} (hk : unescape e = some unit)
    (hn : e ≠ 'u') (ht : parseUnits rest = some (units, after)) :
    parseUnits ('\\' :: e :: rest) = some (unit :: units, after) := by
  rw [parseUnits.eq_def]
  simp [hk, hn, ht]

theorem parseUnits_hex {n : Nat} (hs : n < 256) (ht : parseUnits rest = some (units, after)) :
    parseUnits ('\\' :: 'u' :: '0' :: '0' :: hexDigit (n / 16) :: hexDigit (n % 16) :: rest) =
      some (n :: units, after) := by
  have hh := hexValue_hexDigit (n / 16) (by omega)
  have low := hexValue_hexDigit (n % 16) (by omega)
  have zero : hexValue '0' = some 0 := by decide
  have whole : 16 * (n / 16) + n % 16 = n := by omega
  rw [parseUnits.eq_def]
  simp [hh, low, zero, whole, ht]

theorem parseUnits_escape (c : Char) (h : parseUnits rest = some (units, after)) :
    parseUnits (escape c ++ rest) = some (c.toNat :: units, after) := by
  unfold escape
  iterate 2
    split
    next hc =>
      subst hc
      exact parseUnits_escaped (by decide) (by decide) h
  iterate 5
    split
    next hc => exact hc ▸ parseUnits_escaped (by decide) (by decide) h
  split
  · exact parseUnits_hex (by omega) h
  · exact parseUnits_raw (by assumption) (by assumption) (by assumption) h

end Units

theorem parseUnits_flatMap (cs rest : List Char) :
    parseUnits (cs.flatMap escape ++ '"' :: rest) = some (cs.map Char.toNat, rest) := by
  induction cs with
  | nil => exact parseUnits_quote
  | cons c cs ih =>
    rw [flatMap_cons, append_assoc]
    exact parseUnits_escape c ih

theorem not_surrogate (c : Char) :
    isHighSurrogate c.toNat = false ∧ isLowSurrogate c.toNat = false := by
  have hv := c.valid
  have same : c.toNat = c.val.toNat := rfl
  simp only [UInt32.isValidChar, Nat.isValidChar] at hv
  simp only [isHighSurrogate, isLowSurrogate, same, Bool.and_eq_false_iff, decide_eq_false_iff_not]
  omega

theorem joinSurrogates_map (cs : List Char) : joinSurrogates (cs.map Char.toNat) = cs := by
  induction cs with
  | nil => rfl
  | cons c cs ih =>
    obtain ⟨hn, hno⟩ := not_surrogate c
    rw [map_cons, joinSurrogates.eq_def]
    simp [hn, hno, ih]

variable (s : String)

theorem parseString_render (rest : List Char) :
    parseString (s.toList.flatMap escape ++ '"' :: rest) = some (s, rest) := by
  simp [parseString, parseUnits_flatMap, joinSurrogates_map]

/- Values -/

variable {c : Char} {items : List Json} {fuel : Nat} {text tail more : List Char}
  {fields : List (String × Json)} {v : Json} {key : String}

theorem skip_cons (h : isSpace c = false) (rest : List Char) : skip (c :: rest) = c :: rest := by
  simp [skip, h]

theorem stops_cons (rest : List Char)
    (h : c.isDigit = false ∧ c ≠ '.' ∧ c ≠ 'e' ∧ c ≠ 'E') : Stops (c :: rest) := by
  intro d hh
  cases hh
  exact h

theorem stops_renderItems (items : List Json) (rest : List Char) :
    Stops (renderItems items ++ rest) := by
  cases items with
  | nil => exact stops_cons rest (by decide)
  | cons v more => exact stops_cons _ (by decide)

theorem stops_renderFields (fields : List (String × Json)) (rest : List Char) :
    Stops (renderFields fields ++ rest) := by
  cases fields with
  | nil => exact stops_cons rest (by decide)
  | cons entry more => exact stops_cons _ (by decide)

theorem parseValue_number (first : c = '-' ∨ c.isDigit = true) (fuel : Nat)
    (rest : List Char) :
    parseValue (fuel + 1) (c :: rest) =
      (parseNumber (c :: rest)).map fun (n, rest) => (.num n, rest) := by
  have ha : ∀ d : Char, d ≠ '-' → d.isDigit = false → c ≠ d := by
    rintro d hno hn rfl
    rcases first with hm | digit
    · exact hno hm
    · rw [hn] at digit
      cases digit
  have solid : isSpace c = false := by
    simp [isSpace, ha ' ' (by decide) (by decide), ha '\t' (by decide) (by decide),
      ha '\n' (by decide) (by decide), ha '\r' (by decide) (by decide)]
  rw [parseValue.eq_def]
  simp [skip_cons solid, ha '"' (by decide) (by decide), ha '[' (by decide) (by decide),
    ha '\x7b' (by decide) (by decide), ha 'n' (by decide) (by decide),
    ha 't' (by decide) (by decide), ha 'f' (by decide) (by decide)]

theorem parseValue_finite (x : Double) (fuel : Nat) {rest : List Char} (h : Stops rest) :
    parseValue (fuel + 1) (finiteText x ++ rest) = some (.num (.finite x), rest) := by
  obtain ⟨c, tail, hs, first⟩ := head_finiteText x rest
  have read := parseNumber_finiteText x h
  rw [hs] at read ⊢
  rw [parseValue_number first, read]
  rfl

theorem parseValue_null (fuel : Nat) (rest : List Char) :
    parseValue (fuel + 1) ("null".toList ++ rest) = some (.null, rest) := by
  rw [parseValue.eq_def]
  simp [skip, isSpace, expect]

theorem parseValue_bool (b : Bool) (fuel : Nat) (rest : List Char) :
    parseValue (fuel + 1) (render (.bool b) ++ rest) = some (.bool b, rest) := by
  rw [parseValue.eq_def]
  cases b <;> simp [render, skip, isSpace, expect]

theorem parseValue_str (fuel : Nat) (rest : List Char) :
    parseValue (fuel + 1) (renderString s ++ rest) = some (.str s, rest) := by
  have read := parseString_render s rest
  rw [parseValue.eq_def]
  simp [renderString, skip, isSpace, read]

/- The first character of a rendered value never closes an empty container. -/

theorem head_render (v : Json) (rest : List Char) :
    ∃ c tail, render v ++ rest = c :: tail ∧ isSpace c = false ∧ c ≠ ']' := by
  cases v with
  | null => exact ⟨'n', _, rfl, by decide, by decide⟩
  | bool b =>
    cases b
    · exact ⟨'f', _, rfl, by decide, by decide⟩
    · exact ⟨'t', _, rfl, by decide, by decide⟩
  | num n =>
    cases n with
    | infinite _ => exact ⟨'n', _, rfl, by decide, by decide⟩
    | finite x =>
      obtain ⟨c, tail, shape, first⟩ := head_finiteText x rest
      refine ⟨c, tail, shape, ?_, ?_⟩
      · rcases first with rfl | digit
        · decide
        · simp only [isSpace, Bool.or_eq_false_iff, decide_eq_false_iff_not]
          refine ⟨⟨⟨?_, ?_⟩, ?_⟩, ?_⟩ <;> rintro rfl <;> exact absurd digit (by decide)
      · rintro rfl
        rcases first with minus | digit
        · cases minus
        · exact absurd digit (by decide)
  | str s => exact ⟨'"', _, rfl, by decide, by decide⟩
  | arr items => cases items <;> exact ⟨'[', _, rfl, by decide, by decide⟩
  | obj fields => cases fields <;> exact ⟨'\x7b', _, rfl, by decide, by decide⟩

theorem length_render_pos (v : Json) : 0 < (render v).length := by
  obtain ⟨c, tail, hs, -⟩ := head_render v []
  rw [append_nil] at hs
  simp [hs]

theorem parseValue_arr {rest : List Char} (hs : text = c :: tail) (hso : isSpace c = false)
    (hsom : c ≠ ']')
    (hr : parseItems fuel text = some (items, rest)) :
    parseValue (fuel + 1) ('[' :: text) = some (.arr items, rest) := by
  subst hs
  rw [parseValue.eq_def]
  simp [skip_cons, hso, hsom, hr, show isSpace '[' = false by decide]

theorem parseValue_obj {rest : List Char} (h : parseFields fuel ('"' :: tail) = some (fields, rest)) :
    parseValue (fuel + 1) ('\x7b' :: '"' :: tail) = some (.obj (assignAll fields), rest) := by
  rw [parseValue.eq_def]
  simp [skip_cons, h, show isSpace '\x7b' = false by decide, show isSpace '"' = false by decide]

theorem parseItems_last {v : Json} {fuel : Nat} {text rest : List Char}
    (h : parseValue fuel text = some (v, ']' :: rest)) :
    parseItems (fuel + 1) text = some ([v], rest) := by
  rw [parseItems.eq_def]
  simp [h, skip_cons, show isSpace ']' = false by decide]

theorem parseItems_more {rest : List Char} (hr : parseValue fuel text = some (v, ',' :: more))
    (ho : parseItems fuel more = some (items, rest)) :
    parseItems (fuel + 1) text = some (v :: items, rest) := by
  rw [parseItems.eq_def]
  simp [hr, ho, skip_cons, show isSpace ',' = false by decide]

theorem parseFields_last {rest : List Char} (h : parseValue fuel text = some (v, '\x7d' :: rest)) :
    parseFields (fuel + 1) (renderString key ++ ':' :: text) = some ([(key, v)], rest) := by
  have name := parseString_render key (':' :: text)
  rw [parseFields.eq_def]
  simp [renderString, skip_cons, name, h, show isSpace '"' = false by decide,
    show isSpace ':' = false by decide, show isSpace '\x7d' = false by decide]

theorem parseFields_more {rest : List Char} (hr : parseValue fuel text = some (v, ',' :: more))
    (ho : parseFields fuel more = some (fields, rest)) :
    parseFields (fuel + 1) (renderString key ++ ':' :: text) = some ((key, v) :: fields, rest) := by
  have name := parseString_render key (':' :: text)
  rw [parseFields.eq_def]
  simp [renderString, skip_cons, name, hr, ho, show isSpace '"' = false by decide,
    show isSpace ':' = false by decide, show isSpace ',' = false by decide]

/-- The text's length is the fuel: every nested call has consumed a character. -/
def ReadsBack (v : Json) : Prop :=
  ∀ fuel rest, (render v).length ≤ fuel → Stops rest →
    parseValue fuel (render v ++ rest) = some (v.normalize, rest)

theorem parseItems_render (items : List Json) (v : Json) (hh : ReadsBack v)
    (ho : ∀ w ∈ items, ReadsBack w) (fuel : Nat) (rest : List Char)
    (he : (render v).length + (renderItems items).length ≤ fuel) :
    parseItems fuel (render v ++ (renderItems items ++ rest)) =
      some (v.normalize :: normalizeItems items, rest) := by
  induction items generalizing v fuel with
  | nil =>
    simp only [renderItems, length_singleton] at he
    obtain ⟨fuel, rfl⟩ : ∃ n, fuel = n + 1 := ⟨fuel - 1, by omega⟩
    exact parseItems_last (hh fuel _ (by omega) (stops_renderItems [] rest))
  | cons next more ih =>
    simp only [renderItems, length_cons, length_append] at he
    have some_text := length_render_pos v
    obtain ⟨fuel, rfl⟩ : ∃ n, fuel = n + 1 := ⟨fuel - 1, by omega⟩
    have read := hh fuel _ (by omega) (stops_renderItems (next :: more) rest)
    have ht := ih next (ho next (by simp)) (fun w mem => ho w (by simp [mem])) fuel (by omega)
    simp only [renderItems, cons_append, append_assoc] at read ⊢
    exact parseItems_more read ht

theorem parseFields_render (fields : List (String × Json)) (key : String) (v : Json)
    (hh : ReadsBack v) (ho : ∀ e ∈ fields, ReadsBack e.2) (fuel : Nat) (rest : List Char)
    (he : (render v).length + (renderFields fields).length ≤ fuel) :
    parseFields fuel (renderString key ++ ':' :: (render v ++ (renderFields fields ++ rest))) =
      some ((key, v.normalize) :: normalizeFields fields, rest) := by
  induction fields generalizing key v fuel with
  | nil =>
    simp only [renderFields, length_singleton] at he
    obtain ⟨fuel, rfl⟩ : ∃ n, fuel = n + 1 := ⟨fuel - 1, by omega⟩
    exact parseFields_last (hh fuel _ (by omega) (stops_renderFields [] rest))
  | cons entry more ih =>
    obtain ⟨name, next⟩ := entry
    simp only [renderFields, length_cons, length_append] at he
    have some_text := length_render_pos v
    obtain ⟨fuel, rfl⟩ : ∃ n, fuel = n + 1 := ⟨fuel - 1, by omega⟩
    have read := hh fuel _ (by omega) (stops_renderFields ((name, next) :: more) rest)
    have ht :=
      ih name next (ho (name, next) (by simp)) (fun e mem => ho e (by simp [mem])) fuel (by omega)
    simp only [renderFields, cons_append, append_assoc] at read ⊢
    exact parseFields_more read ht

theorem readsBack_arr (items : List Json) (ih : ∀ v ∈ items, ReadsBack v) :
    ReadsBack (.arr items) := by
  intro fuel rest he hst
  have some_text := length_render_pos (.arr items)
  obtain ⟨fuel, rfl⟩ : ∃ n, fuel = n + 1 := ⟨fuel - 1, by omega⟩
  cases items with
  | nil =>
    rw [parseValue.eq_def]
    simp [render, Json.normalize, normalizeItems, skip_cons, show isSpace '[' = false by decide,
      show isSpace ']' = false by decide]
  | cons first items =>
    simp only [render, length_cons, length_append] at he
    have read := parseItems_render items first (ih first (by simp))
      (fun w mem => ih w (by simp [mem])) fuel rest (by omega)
    obtain ⟨c, tail, hs, hso, hh⟩ := head_render first (renderItems items ++ rest)
    simp only [render, cons_append, append_assoc]
    exact parseValue_arr hs hso hh read

theorem readsBack_obj (fields : List (String × Json)) (ih : ∀ e ∈ fields, ReadsBack e.2) :
    ReadsBack (.obj fields) := by
  intro fuel rest he hst
  have some_text := length_render_pos (.obj fields)
  obtain ⟨fuel, rfl⟩ : ∃ n, fuel = n + 1 := ⟨fuel - 1, by omega⟩
  cases fields with
  | nil =>
    rw [parseValue.eq_def]
    simp [render, Json.normalize, normalizeFields, assignAll, skip_cons,
      show isSpace '\x7b' = false by decide, show isSpace '\x7d' = false by decide]
  | cons entry fields =>
    obtain ⟨key, first⟩ := entry
    simp only [render, length_cons, length_append] at he
    have read := parseFields_render fields key first (ih (key, first) (by simp))
      (fun e mem => ih e (by simp [mem])) fuel rest (by omega)
    simp only [render, cons_append, append_assoc]
    exact parseValue_obj read

theorem parseValue_render (v : Json) : ReadsBack v := by
  induction v with
  | arr items ih => exact readsBack_arr items ih
  | obj fields ih => exact readsBack_obj fields ih
  | null =>
    rintro (_ | fuel) rest he hs
    · cases he
    · exact parseValue_null fuel rest
  | bool b =>
    rintro (_ | fuel) rest he hs
    · exact absurd he (Nat.not_le.mpr (length_render_pos _))
    · exact parseValue_bool b fuel rest
  | num n =>
    rintro (_ | fuel) rest he hs
    · exact absurd he (Nat.not_le.mpr (length_render_pos _))
    · cases n with
      | finite x => exact parseValue_finite x fuel hs
      | infinite _ => exact parseValue_null fuel rest
  | str s =>
    rintro (_ | fuel) rest he hs
    · cases he
    · exact parseValue_str s fuel rest

theorem parse_stringify (v : Json) : parse (stringify v) = some v.normalize := by
  have read := parseValue_render v ((render v).length + 1) [] (by omega) (by rintro c ⟨⟩)
  rw [append_nil] at read
  simp [parse, stringify, read, skip]

end JsonText

end DebugRouter.Library
