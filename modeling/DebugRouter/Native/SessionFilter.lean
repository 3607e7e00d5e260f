import DebugRouter.Native.Schema
import DebugRouter.Native.Sessions

/-!
The filter of the transports. A message in whose text the key does not stand is let through without
a look at its JSON, and a number that is no `int` makes the JSON library throw.
-/
namespace DebugRouter.Native

open Library

def kSessionIdKey : List UInt8 := literal "\"session_id\""

def asInt : JsNumber → Except String Int
  | .finite x =>
    if -2 ^ 31 * unit ≤ x.units ∧ x.units ≤ (2 ^ 31 - 1) * unit then .ok (x.units.tdiv unit)
    else .error "out of Int range"
  | .infinite _ => .error "double out of Int range"

/-- What is returned and the session id that is left behind. -/
def extractIncomingSessionIdForFilter (cpp : JsonCpp) (message : List UInt8) :
    Except String (Bool × Int) :=
  if kSessionIdKey <:+: message then do
    let (successful, root) ← cpp.parse message
    if successful && root.isObject then
      let data ← resolveReference root "data"
      if data.isObject then
        let payload ← find data "data"
        if payload.isObject then
          match ← find payload "session_id" with
          | .num n =>
            let sessionId ← asInt n
            return (sessionId > 0, sessionId)
          | _ => return (false, -1)
        else return (false, -1)
      else return (false, -1)
    else return (false, -1)
  else .ok (false, -1)

def SessionCore.shouldDropIncomingBySessionFilter (cpp : JsonCpp) (s : SessionCore)
    (message : List UInt8) : Except String Bool :=
  if s.enableAllSessions then .ok false
  else do
    let (found, sessionId) ← extractIncomingSessionIdForFilter cpp message
    return found && !s.isActiveSession sessionId

def sessionNumber? (root : Json) : Option JsNumber :=
  match field (field (field root "data") "data") "session_id" with
  | .num n => some n
  | _ => none

/-- The integer part; an infinity is beyond every integer of the others. -/
def integerValue : JsNumber → Int
  | .finite x => x.units.tdiv unit
  | .infinite negative => JsNumber.signed negative (2 ^ overflowExponent)

/-- The value lies in the range of a 32-bit `int`. -/
def FitsInt : JsNumber → Prop
  | .finite x => -2 ^ 31 * unit ≤ x.units ∧ x.units ≤ (2 ^ 31 - 1) * unit
  | .infinite _ => False

instance : DecidablePred FitsInt
  | .finite _ => inferInstanceAs (Decidable (_ ∧ _))
  | .infinite _ => .isFalse id

/-- `n` stands at `data.data.session_id` of a message that parses. -/
def Names (cpp : JsonCpp) (message : List UInt8) (n : JsNumber) : Prop :=
  ∃ root, cpp.parse message = .ok (true, root) ∧ sessionNumber? root = some n

/-- The number of a message with an integer value above 0 that is not enabled. -/
def SessionCore.Unwanted (cpp : JsonCpp) (s : SessionCore) (message : List UInt8) : Prop :=
  ∃ n, Names cpp message n ∧ 0 < integerValue n ∧ integerValue n ∉ s.enabledSessionIds

def SessionCore.FiltersExactly (cpp : JsonCpp) (s : SessionCore) (message : List UInt8) : Prop :=
  ∃ drop, s.shouldDropIncomingBySessionFilter cpp message = .ok drop ∧
    (drop = true ↔ s.Unwanted cpp message)

/-- What a sender has to keep to, whatever sessions are enabled: no nesting at which the parser
throws, a positive number only under a key without escapes, and no number beyond `int`. -/
structure Filterable (cpp : JsonCpp) (message : List UInt8) : Prop where
  parses : kSessionIdKey <:+: message → ∃ parsed, cpp.parse message = .ok parsed
  spelled : ∀ n, Names cpp message n → 0 < integerValue n → kSessionIdKey <:+: message
  fits : ∀ n, Names cpp message n → kSessionIdKey <:+: message → FitsInt n

theorem asInt_of_fits {n : JsNumber} (fits : FitsInt n) : asInt n = .ok (integerValue n) := by
  cases n with
  | finite x => exact if_pos fits
  | infinite => exact fits.elim

theorem asInt_of_not_fits {n : JsNumber} (beyond : ¬ FitsInt n) : ∃ what, asInt n = .error what := by
  cases n with
  | finite x => exact ⟨_, if_neg beyond⟩
  | infinite => exact ⟨_, rfl⟩

theorem field_of_not_isObject {v : Json} (h : ¬ v.isObject = true) (key : String) :
    field v key = .null := by
  by_contra present
  exact h (isObject_of_field present)

theorem extract_eq {cpp : JsonCpp} {message : List UInt8} (present : kSessionIdKey <:+: message) :
    extractIncomingSessionIdForFilter cpp message = (cpp.parse message).bind fun parsed =>
      match if parsed.1 then sessionNumber? parsed.2 else none with
      | some n => (asInt n).map fun sessionId => (decide (sessionId > 0), sessionId)
      | none => .ok (false, -1) := by
  unfold extractIncomingSessionIdForFilter sessionNumber?
  rw [if_pos present]
  cases cpp.parse message with
  | error what => rfl
  | ok parsed =>
    obtain ⟨successful, root⟩ := parsed
    have resolved : root.isObject = true →
        resolveReference root "data" = .ok (field root "data") := by
      cases root <;> simp [Json.isObject, resolveReference, field, Json.get?]
    cases successful with
    | false => rfl
    | true =>
      simp only [ok_bind, Bool.true_and, Except.bind, if_true]
      by_cases object : root.isObject = true
      · simp only [object, if_true, resolved, ok_bind]
        by_cases hd : (field root "data").isObject = true
        · simp only [hd, if_true, find_of_isObject, ok_bind]
          by_cases hp : (field (field root "data") "data").isObject = true
          · simp only [hp, if_true, find_of_isObject, ok_bind]
            cases field (field (field root "data") "data") "session_id" with
            | num n => cases asInt n <;> rfl
            | _ => rfl
          · rw [if_neg hp, field_of_not_isObject hp]
            rfl
        · rw [if_neg hd, field_of_not_isObject hd]
          rfl
      · rw [if_neg object, field_of_not_isObject object]
        rfl

namespace SessionCore
variable (cpp : JsonCpp) (s : SessionCore) (message : List UInt8)

variable {cpp s message}

theorem exact_without_key (off : s.enableAllSessions = false)
    (absent : ¬ kSessionIdKey <:+: message) :
    s.FiltersExactly cpp message ↔ ¬ s.Unwanted cpp message := by
  have passed : s.shouldDropIncomingBySessionFilter cpp message = .ok false := by
    rw [shouldDropIncomingBySessionFilter, off, extractIncomingSessionIdForFilter, if_neg absent]
    rfl
  rw [FiltersExactly, passed]
  simp

/-- With the key in the text, the filter is exact where it returns. -/
theorem exact_with_key (off : s.enableAllSessions = false) (present : kSessionIdKey <:+: message) :
    s.FiltersExactly cpp message ↔ (∃ parsed, cpp.parse message = .ok parsed) ∧
      ∀ n, Names cpp message n → FitsInt n := by
  unfold FiltersExactly shouldDropIncomingBySessionFilter Unwanted Names
  rw [off, if_neg Bool.false_ne_true, extract_eq present]
  cases cpp.parse message with
  | error what =>
    exact iff_of_false (fun ⟨_, drops, _⟩ => by cases drops) fun ⟨⟨_, parsed⟩, _⟩ => by cases parsed
  | ok parsed =>
    obtain ⟨successful, root⟩ := parsed
    cases named : if successful then sessionNumber? root else none with
    | none =>
      have none_named : ∀ n, ¬ ∃ r,
          (.ok (successful, root) : Except String (Bool × Json)) = .ok (true, r) ∧
          sessionNumber? r = some n := by
        rintro n ⟨r, parsed, found⟩
        cases parsed
        rw [if_pos rfl, found] at named
        cases named
      refine iff_of_true ⟨false, by simp [Except.bind, named], ?_⟩
        ⟨⟨_, rfl⟩, fun n found => absurd found (none_named n)⟩
      exact iff_of_false Bool.false_ne_true fun ⟨n, found, _⟩ => none_named n found
    | some n =>
      obtain ⟨rfl, found⟩ : successful = true ∧ sessionNumber? root = some n := by
        split at named
        · exact ⟨‹_›, named⟩
        · cases named
      simp only [Except.bind, if_true, found]
      by_cases fits : FitsInt n
      · rw [asInt_of_fits fits]
        refine iff_of_true ⟨_, rfl, by simp [isActiveSession, off, found]⟩ ⟨⟨_, rfl⟩, ?_⟩
        rintro other ⟨r, parsed, again⟩
        cases parsed
        cases found.symm.trans again
        exact fits
      · obtain ⟨what, thrown⟩ := asInt_of_not_fits fits
        rw [thrown]
        exact iff_of_false (fun ⟨_, drops, _⟩ => by cases drops)
          fun ⟨_, all⟩ => fits (all n ⟨root, rfl, found⟩)

variable (cpp message)

/-- The filter is exact for every set of enabled sessions just at the messages that keep to three
rules, none of which reads the set. -/
theorem shouldDrop_exact_iff :
    (∀ s : SessionCore, s.enableAllSessions = false → s.FiltersExactly cpp message) ↔
      Filterable cpp message := by
  by_cases present : kSessionIdKey <:+: message
  · constructor
    · intro exact
      obtain ⟨parses, fits⟩ := (exact_with_key rfl present).mp (exact (initial 0) rfl)
      exact ⟨fun _ => parses, fun _ _ _ => present, fun n named _ => fits n named⟩
    · intro keeps s off
      exact (exact_with_key off present).mpr
        ⟨keeps.parses present, fun n named => keeps.fits n named present⟩
  · constructor
    · intro exact
      -- with nothing enabled every positive number is unwanted
      have wanted := (exact_without_key rfl present).mp (exact (initial 0) rfl)
      exact ⟨fun key => absurd key present,
        fun n named positive => absurd ⟨n, named, positive, List.not_mem_nil⟩ wanted,
        fun _ _ key => absurd key present⟩
    · intro keeps s off
      refine (exact_without_key off present).mpr ?_
      rintro ⟨n, named, positive, -⟩
      exact present (keeps.spelled n named positive)

theorem shouldDrop_exact_plain : (initial 0).FiltersExactly jsonText
    (literal "\x7b\"data\":\x7b\"data\":\x7b\"session_id\":7\x7d\x7d\x7d") := by
  have parsed : jsonText.parse
      (literal "\x7b\"data\":\x7b\"data\":\x7b\"session_id\":7\x7d\x7d\x7d") =
      .ok (true, .obj [("data", .obj [("data", .obj [("session_id", Json.ofInt 7)])])]) := by
    decide +kernel
  refine (shouldDrop_exact_iff _ _).mpr
    ⟨fun _ => ⟨_, parsed⟩, fun _ _ _ => by decide +kernel, ?_⟩ (initial 0) rfl
  rintro n ⟨root, again, found⟩ _
  cases parsed.symm.trans again
  cases found
  exact by decide +kernel

/-- The key is spelled with an escape, and a number is too large. -/
theorem shouldDrop_inexact : (initial 0).shouldDropIncomingBySessionFilter jsonText
        (literal "\x7b\"data\":\x7b\"data\":\x7b\"session\\u005fid\":7\x7d\x7d\x7d") = .ok false ∧
      (initial 0).Unwanted jsonText
        (literal "\x7b\"data\":\x7b\"data\":\x7b\"session\\u005fid\":7\x7d\x7d\x7d") ∧
      (initial 0).shouldDropIncomingBySessionFilter jsonText
        (literal "\x7b\"data\":\x7b\"data\":\x7b\"session_id\":2147483648\x7d\x7d\x7d") =
        .error "out of Int range" := by
  refine ⟨by decide +kernel, ⟨JsNumber.ofInt 7, ⟨.obj [("data", .obj [("data",
    .obj [("session_id", Json.ofInt 7)])])], ?_⟩, ?_⟩, by decide +kernel⟩
  · decide +kernel
  · decide +kernel

end SessionCore

end DebugRouter.Native
