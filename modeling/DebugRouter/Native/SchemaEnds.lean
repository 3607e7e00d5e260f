import DebugRouter.Native.Schema

/-!
The end of a schema. `decodeURIComponent` does not look at an escape that the end cuts off, and the
loop of `HandleSchema` does not get past an `&` at the end.
-/
namespace DebugRouter.Native

open List Option

/- Percent decoding -/

/-- A text that stands for the bytes: some of them are escaped, by digits of either case, the
percent signs always. -/
inductive Escapes : List UInt8 → List UInt8 → Prop
  | nil : Escapes [] []
  | plain {c : UInt8} {s text : List UInt8} : c ≠ 0x25 → Escapes s text → Escapes (c :: s) (c :: text)
  | escape {a b high low : UInt8} {s text : List UInt8} : hexDigit? a = some high →
      hexDigit? b = some low →
      Escapes s text → Escapes ((high <<< 4 ||| low) :: s) (0x25 :: a :: b :: text)

def Complete (text : List UInt8) : Prop :=
  ∀ front rest, text = front ++ 0x25 :: rest →
    ∃ a b tail, rest = a :: b :: tail ∧ (hexDigit? a).isSome ∧ (hexDigit? b).isSome

def Cut (tail : List UInt8) : Prop := tail = [0x25] ∨ ∃ a, (hexDigit? a).isSome ∧ tail = [0x25, a]

/-- Something is decoded before an escape that the end cuts off. -/
def CutOff (text : List UInt8) : Prop :=
  ∃ s front tail, text = front ++ tail ∧ Escapes s front ∧ s ≠ [] ∧ Cut tail

def DecodesExactly (text : List UInt8) : Prop :=
  (Complete text → ∃ s, Escapes s text) ∧ (∀ s, Escapes s text → decodeURIComponent text = s) ∧
    (¬ Complete text → decodeURIComponent text = [])

variable {s text : List UInt8}
variable {c a : UInt8} {tail : List UInt8}

theorem Complete.of_cons (h : Complete (c :: text)) : Complete text :=
  fun pre xs he => h (c :: pre) xs (by rw [he, cons_append])

theorem Complete.cons (h : Complete text) (hc : c ≠ 0x25) : Complete (c :: text) := by
  intro pre xs he
  cases pre with
  | nil => exact absurd (cons.inj he).1 hc
  | cons d pre => exact h pre xs (cons.inj he).2

theorem ne_percent (h : (hexDigit? a).isSome) : a ≠ 0x25 := by
  rintro rfl
  cases h

theorem Complete.escape {b : UInt8} (ha : (hexDigit? a).isSome) (hb : (hexDigit? b).isSome)
    (h : Complete text) : Complete (0x25 :: a :: b :: text) := by
  intro pre xs he
  cases pre with
  | nil => exact ⟨a, b, text, (cons.inj he).2.symm, ha, hb⟩
  | cons d pre => exact ((h.cons (ne_percent hb)).cons (ne_percent ha)) pre xs (cons.inj he).2

theorem Escapes.complete (h : Escapes s text) : Complete text := by
  induction h with
  | nil => exact fun pre xs he => absurd he (by simp)
  | plain hc _ ih => exact ih.cons hc
  | escape ha hb _ ih => exact Complete.escape (by simp [ha]) (by simp [hb]) ih

theorem Cut.not_complete (h : Cut tail) (pre : List UInt8) : ¬ Complete (pre ++ tail) := by
  intro hc
  rcases h with rfl | ⟨a, -, rfl⟩ <;> obtain ⟨_, _, _, he, -⟩ := hc pre _ rfl <;> simp at he

theorem decodeFrom_escapes (h : Escapes s text) (tail : List UInt8) :
    decodeFrom .outside (text ++ tail) = (decodeFrom .outside tail).map (s ++ ·) := by
  induction h with
  | nil => simp
  | plain hc _ ih =>
    rw [cons_append, decodeFrom, if_neg hc, ih]
    cases decodeFrom .outside tail <;> rfl
  | escape ha hb _ ih =>
    simp only [cons_append, decodeFrom, if_true, ha, hb, bind_some, ih]
    cases decodeFrom .outside tail <;> rfl

theorem Cut.decodeFrom (h : Cut tail) : decodeFrom .outside tail = some [] := by
  rcases h with rfl | ⟨a, ha, rfl⟩
  · rfl
  · obtain ⟨code, hc⟩ := isSome_iff_exists.mp ha
    simp [Native.decodeFrom, hc]

theorem decodeFrom_cases : ∀ text : List UInt8,
    (∃ s pre tail, text = pre ++ tail ∧ Escapes s pre ∧ (tail = [] ∨ Cut tail)) ∨
      ¬ Complete text ∧ decodeFrom .outside text = none
  | [] => .inl ⟨[], [], [], rfl, .nil, .inl rfl⟩
  | c :: xs => by
    by_cases hc : c = 0x25
    · subst hc
      match xs with
      | [] => exact .inl ⟨[], [], _, rfl, .nil, .inr (.inl rfl)⟩
      | a :: xs =>
        cases ha : hexDigit? a with
        | none =>
          refine .inr ⟨fun hc => ?_, by simp [decodeFrom, ha]⟩
          obtain ⟨_, _, _, he, hs, -⟩ := hc [] _ rfl
          cases he
          simp [ha] at hs
        | some high =>
          match xs with
          | [] => exact .inl ⟨[], [], _, rfl, .nil, .inr (.inr ⟨a, by simp [ha], rfl⟩)⟩
          | b :: xs =>
            cases hb : hexDigit? b with
            | none =>
              refine .inr ⟨fun hc => ?_, by simp [decodeFrom, ha, hb]⟩
              obtain ⟨_, _, _, he, -, hs⟩ := hc [] _ rfl
              cases he
              simp [hb] at hs
            | some low =>
              rcases decodeFrom_cases xs with ⟨s, pre, tail, he, hs, ht⟩ | ⟨hn, hd⟩
              · exact .inl ⟨_, _, tail, by rw [he]; rfl, .escape ha hb hs, ht⟩
              · exact .inr ⟨fun hc => hn hc.of_cons.of_cons.of_cons, by simp [decodeFrom, ha, hb, hd]⟩
    · rcases decodeFrom_cases xs with ⟨s, pre, tail, he, hs, ht⟩ | ⟨hn, hd⟩
      · exact .inl ⟨c :: s, c :: pre, tail, by rw [he]; rfl, .plain hc hs, ht⟩
      · exact .inr ⟨fun h => hn h.of_cons, by simp [decodeFrom, hc, hd]⟩

theorem Escapes.decodes (h : Escapes s text) (ht : tail = [] ∨ Cut tail) :
    decodeURIComponent (text ++ tail) = s := by
  have hd : decodeFrom .outside tail = some [] := by
    rcases ht with rfl | ht
    · rfl
    · exact ht.decodeFrom
  rw [decodeURIComponent, decodeFrom_escapes h, hd]
  simp

theorem decodesExactly_iff (text : List UInt8) : DecodesExactly text ↔ ¬ CutOff text := by
  constructor
  · rintro ⟨-, -, hm⟩ ⟨s, front, tail, rfl, hs, hne, ht⟩
    exact hne ((hs.decodes (.inr ht)).symm.trans (hm (ht.not_complete front)))
  · intro hn
    refine ⟨fun hc => ?_, fun s hs => ?_, fun hc => ?_⟩
    · rcases decodeFrom_cases text with ⟨s, front, tail, rfl, hs, rfl | ht⟩ | ⟨hi, -⟩
      · exact ⟨s, by rwa [append_nil]⟩
      · exact absurd hc (ht.not_complete front)
      · exact absurd hc hi
    · rw [← hs.decodes (.inl rfl), append_nil]
    · rcases decodeFrom_cases text with ⟨s, front, tail, rfl, hs, rfl | ht⟩ | ⟨-, hd⟩
      · exact absurd (by rw [append_nil]; exact hs.complete) hc
      · rw [hs.decodes (.inr ht)]
        by_contra hne
        exact hn ⟨s, front, tail, rfl, hs, hne, ht⟩
      · rw [decodeURIComponent, hd]
        rfl

theorem cut_escape_dropped :
    ¬ Complete (literal "a%4") ∧ decodeURIComponent (literal "a%4") = literal "a" := by
  refine ⟨fun hc => ?_, by decide⟩
  exact Cut.not_complete (.inr ⟨0x34, rfl, rfl⟩) [0x61] hc

/- The loop of `HandleSchema` -/

namespace ParamLoop

theorem turns_bounded_iff (query url room : List UInt8) :
    (∃ last, turns (query.count 0x26 + 1) ⟨query, url, room⟩ = some last) ↔
      query.getLast? ≠ some 0x26 := by
  induction hn : query.count 0x26 generalizing query url room with
  | zero =>
    have hm : 0x26 ∉ query := count_eq_zero.mp hn
    obtain ⟨query', ht⟩ := turn_last (s := ⟨query, url, room⟩) hm
    refine iff_of_true ⟨_, by rw [turns, ht]⟩ fun hl => hm (mem_of_getLast? hl)
  | succ n ih =>
    obtain ⟨param, rest, rfl, hc⟩ :=
      eq_append_cons_of_mem (count_pos_iff.mp (by omega : 0 < query.count 0x26))
    by_cases hr : rest = []
    · subst hr
      simp [turns_trailing hc]
    · have hh : rest.count 0x26 = n := by
        rw [count_append, count_eq_zero.mpr hc, count_cons_self] at hn
        omega
      rw [turns, turn_next hc rfl, if_neg hr, assign_eq]
      refine (ih rest _ _ hh).trans ?_
      rw [getLast?_append, getLast?_cons, getLast?_eq_some_getLast hr]
      simp

end ParamLoop

def decodedQuery (encodeSchema : List UInt8) : List UInt8 :=
  ((find? 0x3F (decodeURIComponent encodeSchema)).map fun index =>
    (decodeURIComponent encodeSchema).drop (index + 1)).getD []

def command? (encodeSchema : List UInt8) : Option (List UInt8) :=
  (find? 0x3F (decodeURIComponent encodeSchema)).bind fun index =>
    let path := (decodeURIComponent encodeSchema).take index
    if 0x2F ∈ path then some (path.rtakeWhile (· ≠ 0x2F)) else none

/-- The loop ends, after one turn more than there are `&`s, exactly if there is none at the end. -/
theorem handleSchema_returns_iff (encodeSchema : List UInt8) :
    (∃ result, handleSchema ((decodedQuery encodeSchema).count 0x26 + 1) encodeSchema = some result) ↔
      ¬ (command? encodeSchema = some (literal "enable") ∧
        (decodedQuery encodeSchema).getLast? = some 0x26) := by
  unfold handleSchema command? decodedQuery
  dsimp only
  generalize decodeURIComponent encodeSchema = schema
  cases find? 0x3F schema with
  | none => simp
  | some index =>
    simp only [map_some, getD_some, bind_some]
    by_cases hp : 0x2F ∈ schema.take index
    · rw [if_pos hp, if_pos hp]
      by_cases hc : (schema.take index).rtakeWhile (· ≠ 0x2F) = literal "enable"
      · rw [if_pos hc, hc, eq_self, true_and, ← ne_eq, ← ParamLoop.turns_bounded_iff _ [] []]
        simp only [map_eq_some_iff]
        exact ⟨fun ⟨_, last, hl, _⟩ => ⟨last, hl⟩, fun ⟨last, hl⟩ => ⟨_, last, hl, rfl⟩⟩
      · rw [if_neg hc]
        refine iff_of_true ?_ fun he => hc (some.inj he.1)
        split <;> exact ⟨_, rfl⟩
    · rw [if_neg hp, if_neg hp]
      simp

theorem trailing_separator_endless :
    ¬∃ n result, handleSchema n (literal "lynx://x/enable?&") = some result := by
  rintro ⟨n, result, hr⟩
  have endless : handleSchema n (literal "lynx://x/enable?&") = none :=
    congrArg (Option.map _) (@ParamLoop.turns_trailing [] List.not_mem_nil n [] [])
  cases endless.symm.trans hr

end DebugRouter.Native
