import Mathlib.Data.List.DropRight
import DebugRouter.Library.Bytes

/-!
`HandleSchema`. The whole schema is decoded before it is split, so what was encoded in a parameter
is split as well; a `#` takes the last parameter with it, and an `&` at the end is never left
behind.
-/
namespace DebugRouter.Native

open Library List Option

def literal (text : String) : List UInt8 := Utf8.encode text.toList

/- `decodeURIComponent` -/

def hexDigit? (c : UInt8) : Option UInt8 :=
  if 0x30 ≤ c ∧ c ≤ 0x39 then some (c - 0x30)
  else if 0x41 ≤ c ∧ c ≤ 0x46 then some (0x0a + (c - 0x41))
  else if 0x61 ≤ c ∧ c ≤ 0x66 then some (0x0a + (c - 0x61))
  else none

/-- `flag` and `code`. -/
inductive Escape where
  | outside
  | percent
  | digit (code : UInt8)

/-- `none` is the empty string that is returned for an escape without two digits. An escape that the
end cuts off is left out. -/
def decodeFrom : Escape → List UInt8 → Option (List UInt8)
  | _, [] => some []
  | .outside, c :: rest =>
    if c = 0x25 then decodeFrom .percent rest else (decodeFrom .outside rest).map (c :: ·)
  | .percent, c :: rest => (hexDigit? c).bind fun code => decodeFrom (.digit code) rest
  | .digit code, c :: rest =>
    (hexDigit? c).bind fun low => (decodeFrom .outside rest).map ((code <<< 4 ||| low) :: ·)

def decodeURIComponent (url : List UInt8) : List UInt8 := (decodeFrom .outside url).getD []

/- The loop over the parameters -/

/-- `string::find`; `none` is `npos`. -/
def find? (c : UInt8) (s : List UInt8) : Option Nat := if c ∈ s then some (s.idxOf c) else none

structure ParamLoop where
  query : List UInt8
  url : List UInt8
  room : List UInt8

namespace ParamLoop

def assign (s : ParamLoop) (param : List UInt8) : ParamLoop :=
  match find? 0x3D param with
  | none => s
  | some keyIndex =>
    let key := param.take keyIndex
    let value := param.drop (keyIndex + 1)
    if key = literal "url" then { s with url := value }
    else if key = literal "room" then { s with room := value }
    else s

def paramIndex (query : List UInt8) : Nat × Bool :=
  match find? 0x26 query with
  | some index => (index, true)
  | none => (if 0x23 ∈ query then 0 else query.length, false)

def turn (s : ParamLoop) : ParamLoop × Bool :=
  let (index, breakFlag) := paramIndex s.query
  let read := s.assign (s.query.take index)
  ({ read with query := if index + 1 < s.query.length then s.query.drop (index + 1) else s.query },
    breakFlag)

/-- The loop, as far as it comes in a number of turns. -/
def turns : Nat → ParamLoop → Option ParamLoop
  | 0, _ => none
  | n + 1, s =>
    match s.turn with
    | (next, true) => turns n next
    | (last, false) => some last

end ParamLoop

inductive SchemaRequest where
  | connectAsync (url room : List UInt8)
  | disconnectAsync
  deriving DecidableEq

/-- What `HandleSchema` returns and what it asks for, if its loop is left within the turns. -/
def handleSchema (turns : Nat) (encodeSchema : List UInt8) : Option (Bool × Option SchemaRequest) :=
  let schema := decodeURIComponent encodeSchema
  match find? 0x3F schema with
  | none => some (false, none)
  | some queryIndex =>
    let path := schema.take queryIndex
    if 0x2F ∈ path then
      let cmd := path.rtakeWhile (· ≠ 0x2F)
      if cmd = literal "enable" then
        (ParamLoop.turns turns ⟨schema.drop (queryIndex + 1), [], []⟩).map fun read =>
          if read.url = [] then (false, none) else (true, some (.connectAsync read.url read.room))
      else if cmd = literal "disable" then some (true, some .disconnectAsync)
      else some (false, none)
    else some (false, none)

def Connects (schema url room : List UInt8) : Prop :=
  ∃ turns, handleSchema turns schema = some (true, some (.connectAsync url room))

/- Percent-encoding -/

def hexChar (digit : UInt8) : UInt8 := if digit < 10 then 0x30 + digit else 0x41 + (digit - 10)

def isUnreserved (c : UInt8) : Bool :=
  (0x41 ≤ c && c ≤ 0x5A) || (0x61 ≤ c && c ≤ 0x7A) || (0x30 ≤ c && c ≤ 0x39) ||
    c = 0x2D || c = 0x2E || c = 0x5F || c = 0x7E

def encodeByte (c : UInt8) : List UInt8 :=
  if isUnreserved c then [c] else [0x25, hexChar (c / 16), hexChar (c % 16)]

def percentEncode (s : List UInt8) : List UInt8 := s.flatMap encodeByte

theorem hexDigits (c : UInt8) :
    hexDigit? (hexChar (c / 16)) = some (c / 16) ∧ hexDigit? (hexChar (c % 16)) = some (c % 16) ∧
      (c / 16) <<< 4 ||| c % 16 = c := by
  have all : ∀ n : Fin 256, hexDigit? (hexChar (UInt8.ofFin n / 16)) = some (UInt8.ofFin n / 16) ∧
      hexDigit? (hexChar (UInt8.ofFin n % 16)) = some (UInt8.ofFin n % 16) ∧
      (UInt8.ofFin n / 16) <<< 4 ||| UInt8.ofFin n % 16 = UInt8.ofFin n := by decide +kernel
  exact all c.toFin

theorem decodeFrom_plain {plain : List UInt8} (h : 0x25 ∉ plain) (xs : List UInt8) :
    decodeFrom .outside (plain ++ xs) = (decodeFrom .outside xs).map (plain ++ ·) := by
  induction plain with
  | nil => simp
  | cons c plain ih =>
    rw [mem_cons, not_or] at h
    rw [cons_append, decodeFrom, if_neg (Ne.symm h.1), ih h.2]
    cases decodeFrom .outside xs <;> rfl

theorem decodeFrom_encodeByte (c : UInt8) (xs : List UInt8) :
    decodeFrom .outside (encodeByte c ++ xs) = (decodeFrom .outside xs).map (c :: ·) := by
  unfold encodeByte
  split
  next hu =>
    refine decodeFrom_plain ?_ xs
    rintro hp
    rw [← mem_singleton.mp hp] at hu
    cases hu
  · obtain ⟨hh, low, hs⟩ := hexDigits c
    simp [decodeFrom, hh, low, hs]

theorem decodeFrom_percentEncode (s xs : List UInt8) :
    decodeFrom .outside (percentEncode s ++ xs) = (decodeFrom .outside xs).map (s ++ ·) := by
  induction s with
  | nil => simp [percentEncode]
  | cons c s ih =>
    have front : percentEncode (c :: s) ++ xs = encodeByte c ++ (percentEncode s ++ xs) := by
      simp [percentEncode]
    rw [front, decodeFrom_encodeByte, ih]
    cases decodeFrom .outside xs <;> rfl

/- What the loop reads -/

def valueOf? (key param : List UInt8) : Option (List UInt8) :=
  (find? 0x3D param).bind fun index => if param.take index = key then some (param.drop (index + 1))
    else none

def lastValue (key start : List UInt8) (params : List (List UInt8)) : List UInt8 :=
  params.foldl (fun value param => (valueOf? key param).getD value) start

/-- The parameters that are read of those between the `&`s: the last one is not if there is a `#` in
it. -/
def readable (params : List (List UInt8)) : List (List UInt8) :=
  params.dropLast ++ params.getLast?.toList.filter (0x23 ∉ ·)

def Trailing (params : List (List UInt8)) : Prop := 1 < params.length ∧ params.getLast? = some []

namespace ParamLoop

variable {c : UInt8}

theorem find?_append {pre : List UInt8} (h : c ∉ pre) (xs : List UInt8) :
    find? c (pre ++ c :: xs) = some pre.length := by
  unfold find?
  rw [if_pos (by simp), idxOf_append_of_notMem h, idxOf_cons_self, Nat.add_zero]

theorem find?_eq_none {s : List UInt8} (h : c ∉ s) : find? c s = none := if_neg h

theorem assign_eq (s : ParamLoop) (param : List UInt8) :
    s.assign param = ⟨s.query, (valueOf? (literal "url") param).getD s.url,
      (valueOf? (literal "room") param).getD s.room⟩ := by
  unfold assign valueOf?
  cases find? 0x3D param with
  | none => rfl
  | some index =>
    have apart : literal "room" ≠ literal "url" := by decide
    dsimp only [bind_some]
    by_cases url : param.take index = literal "url"
    · simp [url, apart.symm]
    · by_cases room : param.take index = literal "room"
      · simp [room, apart]
      · simp [url, room]

theorem turn_last {s : ParamLoop} (h : 0x26 ∉ s.query) :
    ∃ q, s.turn = (⟨q, lastValue (literal "url") s.url (readable [s.query]),
      lastValue (literal "room") s.room (readable [s.query])⟩, false) := by
  unfold turn paramIndex
  rw [find?_eq_none h]
  by_cases hh : 0x23 ∈ s.query
  · simp [hh, assign_eq, readable, lastValue, valueOf?, find?]
  · simp [hh, assign_eq, readable, lastValue]

theorem turn_next {s : ParamLoop} {param xs : List UInt8} (clean : 0x26 ∉ param)
    (q : s.query = param ++ 0x26 :: xs) :
    s.turn = ({ s.assign param with query := if xs = [] then s.query else xs }, true) := by
  unfold turn paramIndex
  rw [q, find?_append clean]
  cases xs with
  | nil => simp
  | cons c xs => simp [drop_append]

theorem turns_trailing {param : List UInt8} (h : 0x26 ∉ param) (n : Nat) (url room : List UInt8) :
    turns n ⟨param ++ [0x26], url, room⟩ = none := by
  induction n generalizing url room with
  | zero => rfl
  | succ n ih =>
    rw [turns, turn_next h rfl, assign_eq]
    exact ih _ _

variable (param : List UInt8)

theorem readable_cons {params : List (List UInt8)} (h : params ≠ []) :
    readable (param :: params) = param :: readable params := by
  obtain ⟨next, others, rfl⟩ := exists_cons_of_ne_nil h
  simp [readable]

theorem trailing_cons {rest : List UInt8} (h : rest ≠ []) :
    Trailing (param :: rest.splitOn 0x26) ↔ Trailing (rest.splitOn 0x26) := by
  have hw : [0x26].intercalate (rest.splitOn 0x26) = rest := intercalate_splitOn 0x26
  have some := splitOn_ne_nil 0x26 rest
  revert hw some
  cases rest.splitOn 0x26 with
  | nil => exact fun _ some => absurd rfl some
  | cons next others =>
    intro hw _
    cases others with
    | nil =>
      have same : next = rest := by simpa using hw
      subst same
      simp [Trailing, h]
    | cons another others => simp [Trailing]

theorem turns_iff (q url room url' room' : List UInt8) :
    (∃ n last, turns n ⟨q, url, room⟩ = some last ∧ last.url = url' ∧ last.room = room') ↔
      ¬ Trailing (q.splitOn 0x26) ∧ lastValue (literal "url") url (readable (q.splitOn 0x26)) = url' ∧
        lastValue (literal "room") room (readable (q.splitOn 0x26)) = room' := by
  induction counted : q.length using Nat.strong_induction_on generalizing q url room with
  | _ size ih =>
    by_cases hm : 0x26 ∈ q
    · obtain ⟨param, xs, rfl, hc⟩ := eq_append_cons_of_mem hm
      rw [splitOn_append_cons_self_of_not_mem hc]
      have next := turn_next (s := ⟨param ++ 0x26 :: xs, url, room⟩) hc rfl
      by_cases nothing : xs = []
      · subst nothing
        constructor
        · rintro ⟨n, last, hl, -⟩
          rw [turns_trailing hc] at hl
          cases hl
        · rintro ⟨free, -⟩
          exact absurd ⟨by simp, rfl⟩ free
      · rw [if_neg nothing, assign_eq] at next
        rw [trailing_cons param nothing, readable_cons param (splitOn_ne_nil _ _)]
        have hs : xs.length < size := by
          rw [← counted, length_append, length_cons]
          omega
        refine Iff.trans ?_ (ih xs.length hs xs _ _ rfl)
        constructor
        · rintro ⟨n, last, hl, hr⟩
          cases n with
          | zero => cases hl
          | succ n =>
            rw [turns, next] at hl
            exact ⟨n, last, hl, hr⟩
        · rintro ⟨n, last, hl, hr⟩
          refine ⟨n + 1, last, ?_, hr⟩
          rw [turns, next]
          exact hl
    · rw [splitOn_eq_singleton hm]
      obtain ⟨query', last⟩ := turn_last (s := ⟨q, url, room⟩) hm
      have free : ¬ Trailing [q] := by simp [Trailing]
      simp only [free, not_false_eq_true, true_and]
      constructor
      · rintro ⟨n, final, hl, rfl, rfl⟩
        cases n with
        | zero => cases hl
        | succ n =>
          rw [turns, last] at hl
          cases hl
          exact ⟨rfl, rfl⟩
      · rintro ⟨rfl, rfl⟩
        refine ⟨1, ⟨query', lastValue (literal "url") url (readable [q]),
          lastValue (literal "room") room (readable [q])⟩, ?_, rfl, rfl⟩
        rw [turns, last]

end ParamLoop

/- Schemas -/

/-- What follows the room: further parameters and a fragment. -/
def trail (further : List (List UInt8 × List UInt8)) (fragment : Option (List UInt8)) : List UInt8 :=
  further.flatMap (fun param => 0x26 :: (param.1 ++ 0x3D :: param.2)) ++ fragment.elim [] (0x23 :: ·)

def encodedTrail (further : List (List UInt8 × List UInt8)) (fragment : Option (List UInt8)) :
    List UInt8 :=
  further.flatMap (fun param => 0x26 :: (percentEncode param.1 ++ 0x3D :: percentEncode param.2)) ++
    fragment.elim [] fun text => 0x23 :: percentEncode text

def enableSchema (scheme url room : List UInt8) (further : List (List UInt8 × List UInt8))
    (fragment : Option (List UInt8)) : List UInt8 :=
  scheme ++ (literal "://remote_debug_lynx/enable?url=" ++ (percentEncode url ++ (literal "&room=" ++
    (percentEncode room ++ encodedTrail further fragment))))

variable (further : List (List UInt8 × List UInt8))

theorem decodeFrom_encodedTrail (fragment : Option (List UInt8)) :
    decodeFrom .outside (encodedTrail further fragment) = some (trail further fragment) := by
  unfold encodedTrail trail
  induction further with
  | nil =>
    cases fragment with
    | none => rfl
    | some text =>
      have read := decodeFrom_percentEncode text []
      rw [append_nil] at read
      simp [decodeFrom, read]
  | cons param further ih =>
    rw [flatMap_cons, flatMap_cons, append_assoc, append_assoc, cons_append,
      append_assoc, cons_append, cons_append, append_assoc, cons_append, decodeFrom,
      if_neg (by decide), decodeFrom_percentEncode, decodeFrom, if_neg (by decide),
      decodeFrom_percentEncode, ih]
    rfl

def queryOf (url room : List UInt8) (rest : List UInt8) : List UInt8 :=
  literal "url=" ++ (url ++ (literal "&room=" ++ (room ++ rest)))

variable {scheme key fragment : List UInt8} {c : UInt8} {later : List (List UInt8)}

theorem decodeURIComponent_enableSchema (h : 0x25 ∉ scheme) (url room : List UInt8)
    (further : List (List UInt8 × List UInt8)) (fragment : Option (List UInt8)) :
    decodeURIComponent (enableSchema scheme url room further fragment) =
      (scheme ++ literal "://remote_debug_lynx/enable") ++
        0x3F :: queryOf url room (trail further fragment) := by
  unfold decodeURIComponent enableSchema
  rw [decodeFrom_plain h, decodeFrom_plain (by decide), decodeFrom_percentEncode,
    decodeFrom_plain (by decide), decodeFrom_percentEncode, decodeFrom_encodedTrail]
  have hh : literal "://remote_debug_lynx/enable?url=" =
      literal "://remote_debug_lynx/enable" ++ 0x3F :: literal "url=" := by decide
  simp [queryOf, hh]

theorem rtakeWhile_after (front : List UInt8) {rest : List UInt8} (h : c ∉ rest) :
    (front ++ c :: rest).rtakeWhile (· ≠ c) = rest := by
  have passes : ∀ a ∈ rest.reverse, decide (a ≠ c) = true := by
    intro a hi
    rw [decide_eq_true_eq]
    rintro rfl
    exact h (mem_reverse.mp hi)
  rw [rtakeWhile, reverse_append, reverse_cons, append_assoc, takeWhile_append_of_pos passes]
  simp

theorem handleSchema_enableSchema (hcl : 0x25 ∉ scheme) (hp : 0x3F ∉ scheme)
    (url room : List UInt8) (further : List (List UInt8 × List UInt8))
    (fragment : Option (List UInt8)) (n : Nat) :
    handleSchema n (enableSchema scheme url room further fragment) =
      (ParamLoop.turns n ⟨queryOf url room (trail further fragment), [], []⟩).map fun read =>
        if read.url = [] then (false, none) else (true, some (.connectAsync read.url read.room)) := by
  have absent : 0x3F ∉ scheme ++ literal "://remote_debug_lynx/enable" := by
    rw [mem_append, not_or]
    exact ⟨hp, by decide⟩
  have slash : scheme ++ literal "://remote_debug_lynx/enable" =
      (scheme ++ literal "://remote_debug_lynx") ++ 0x2F :: literal "enable" := by
    rw [append_assoc]
    rfl
  have inside : 0x2F ∈ scheme ++ literal "://remote_debug_lynx/enable" := by
    rw [slash]
    simp
  have hc : (scheme ++ literal "://remote_debug_lynx/enable").rtakeWhile (· ≠ 0x2F) =
      literal "enable" := by
    rw [slash]
    exact rtakeWhile_after _ (by decide)
  unfold handleSchema
  dsimp only
  rw [decodeURIComponent_enableSchema hcl, ParamLoop.find?_append absent]
  dsimp only
  rw [take_left, if_pos inside, hc, if_pos rfl, ← drop_drop, drop_left]
  rfl

theorem connects_enableSchema (hc : 0x25 ∉ scheme) (hp : 0x3F ∉ scheme)
    (url room : List UInt8) (further : List (List UInt8 × List UInt8))
    (fragment : Option (List UInt8))
    {url' room' : List UInt8} (hg : url' ≠ []) :
    Connects (enableSchema scheme url room further fragment) url' room' ↔
      ¬ Trailing ((queryOf url room (trail further fragment)).splitOn 0x26) ∧
        lastValue (literal "url") []
          (readable ((queryOf url room (trail further fragment)).splitOn 0x26)) = url' ∧
        lastValue (literal "room") []
          (readable ((queryOf url room (trail further fragment)).splitOn 0x26)) = room' := by
  rw [← ParamLoop.turns_iff]
  unfold Connects
  simp only [handleSchema_enableSchema hc hp, map_eq_some_iff]
  constructor
  · rintro ⟨n, last, hl, hr⟩
    split at hr
    · cases hr
    · cases hr
      exact ⟨n, last, hl, rfl, rfl⟩
  · rintro ⟨n, last, hl, rfl, rfl⟩
    exact ⟨n, last, hl, if_neg hg⟩

/- What comes through -/

theorem not_mem_piece {s piece : List UInt8} (h : piece ∈ s.splitOn c) : c ∉ piece := by
  induction s generalizing piece with
  | nil =>
    rw [splitOn_nil, mem_singleton] at h
    rw [h]
    exact not_mem_nil
  | cons a s ih =>
    rw [splitOn_cons_eq_if_modifyHead] at h
    have some := splitOn_ne_nil c s
    revert h ih some
    cases s.splitOn c with
    | nil => exact fun _ _ some => absurd rfl some
    | cons x others =>
      intro ih h _
      split at h
      · rcases mem_cons.mp h with rfl | later
        · exact not_mem_nil
        · exact ih later
      next ha =>
        rw [modifyHead_cons] at h
        rcases mem_cons.mp h with rfl | later
        · have clean := ih mem_cons_self
          simp only [beq_iff_eq] at ha
          rw [mem_cons, not_or]
          exact ⟨Ne.symm ha, clean⟩
        · exact ih (mem_cons_of_mem _ later)

theorem mem_readable {params : List (List UInt8)} {param : List UInt8} (h : param ∈ readable params) :
    param ∈ params := by
  rcases mem_append.mp h with hf | last
  · exact mem_of_mem_dropLast hf
  · have last := (mem_filter.mp last).1
    rw [mem_toList] at last
    exact mem_of_mem_getLast? last

theorem not_mem_lastValue {start q : List UInt8} (h : 0x26 ∉ start) :
    0x26 ∉ lastValue key start (readable (q.splitOn 0x26)) := by
  have all : ∀ param ∈ readable (q.splitOn 0x26), 0x26 ∉ param := fun param hi =>
    not_mem_piece (mem_readable hi)
  revert all
  unfold lastValue
  induction readable (q.splitOn 0x26) generalizing start with
  | nil => exact fun _ => h
  | cons param params ih =>
    intro all
    refine ih ?_ fun o hi => all o (mem_cons_of_mem _ hi)
    dsimp only
    cases hf : valueOf? key param with
    | none => exact h
    | some v =>
      obtain ⟨index, -, ht⟩ := bind_eq_some_iff.mp hf
      split at ht
      · cases ht
        exact fun hi => all param mem_cons_self (mem_of_mem_drop hi)
      · cases ht

/-- What the pieces after the room leave of the url and the room. Without an `&` there is one piece,
and the room is dropped with its `#`. Otherwise the last piece must not be empty, and none may
assign another url or room. -/
def Leaves (url room : List UInt8) : List (List UInt8) → Prop
  | [] => False
  | [fragment] => room = [] ∨ 0x23 ∉ room ∧ fragment = []
  | fragment :: next :: later =>
    (next :: later).getLast? ≠ some [] ∧
      lastValue (literal "url") url (readable (next :: later)) = url ∧
      lastValue (literal "room") (room ++ fragment) (readable (next :: later)) = room

instance (url room : List UInt8) : DecidablePred (Leaves url room)
  | [] => .isFalse id
  | [fragment] => inferInstanceAs (Decidable (room = [] ∨ 0x23 ∉ room ∧ fragment = []))
  | fragment :: next :: later => inferInstanceAs (Decidable ((next :: later).getLast? ≠ some [] ∧
      lastValue (literal "url") url (readable (next :: later)) = url ∧
      lastValue (literal "room") (room ++ fragment) (readable (next :: later)) = room))

theorem splitOn_append {pre : List UInt8} (h : c ∉ pre) (xs : List UInt8) :
    (pre ++ xs).splitOn c = (xs.splitOn c).modifyHead (pre ++ ·) := by
  induction pre with
  | nil =>
    rw [nil_append]
    cases xs.splitOn c <;> rfl
  | cons a pre ih =>
    rw [mem_cons, not_or] at h
    have apart : (a == c) = false := by simpa using Ne.symm h.1
    rw [cons_append, splitOn_cons_eq_if_modifyHead, apart, ih h.2]
    cases xs.splitOn c <;> rfl

theorem splitOn_queryOf {url room xs : List UInt8} (hu : 0x26 ∉ url)
    (hr : 0x26 ∉ room) (hp : xs.splitOn 0x26 = fragment :: later) :
    (queryOf url room xs).splitOn 0x26 =
      (literal "url" ++ 0x3D :: url) :: (literal "room" ++ 0x3D :: (room ++ fragment)) :: later := by
  have shape : queryOf url room xs =
      (literal "url" ++ 0x3D :: url) ++ 0x26 :: ((literal "room" ++ 0x3D :: room) ++ xs) := by
    have x : literal "url=" = literal "url" ++ [0x3D] := by decide
    have hs : literal "&room=" = 0x26 :: (literal "room" ++ [0x3D]) := by decide
    simp [queryOf, x, hs]
  have x : 0x26 ∉ literal "url" ++ 0x3D :: url := by
    simp only [mem_append, mem_cons, not_or]
    exact ⟨by decide, by decide, hu⟩
  have hs : 0x26 ∉ literal "room" ++ 0x3D :: room := by
    simp only [mem_append, mem_cons, not_or]
    exact ⟨by decide, by decide, hr⟩
  rw [shape, splitOn_append_cons_self_of_not_mem x, splitOn_append hs, hp]
  simp

theorem valueOf?_param (h : 0x3D ∉ key) (o v : List UInt8) :
    valueOf? o (key ++ 0x3D :: v) = if key = o then some v else none := by
  unfold valueOf?
  rw [ParamLoop.find?_append h, bind_some, take_left, ← drop_drop, drop_left]
  rfl

theorem trail_head (text : Option (List UInt8))
    (h : (trail further text).splitOn 0x26 = fragment :: later) :
    fragment = [] ∨ 0x23 ∈ fragment := by
  cases further with
  | nil =>
    cases text with
    | none =>
      cases h
      exact .inl rfl
    | some text =>
      have hs : trail [] (some text) = [0x23] ++ text := rfl
      rw [hs, splitOn_append (by decide)] at h
      right
      revert h
      cases text.splitOn 0x26 with
      | nil => exact fun h => by cases h
      | cons x others =>
        intro h
        cases h
        exact mem_cons_self
  | cons param further =>
    have hs : trail (param :: further) text =
        [] ++ 0x26 :: (param.1 ++ 0x3D :: param.2 ++ trail further text) := by
      simp [trail]
    rw [hs, splitOn_append_cons_self_of_not_mem not_mem_nil] at h
    cases h
    exact .inl rfl

/-- The strings of an enable schema come through exactly when there is no `&` in them and what
follows leaves them. -/
theorem enable_connects_iff {scheme : List UInt8} (clean : 0x25 ∉ scheme) (plain : 0x3F ∉ scheme)
    {url : List UInt8} (given : url ≠ []) (room : List UInt8)
    (further : List (List UInt8 × List UInt8)) (fragment : Option (List UInt8)) :
    Connects (enableSchema scheme url room further fragment) url room ↔
      0x26 ∉ url ∧ 0x26 ∉ room ∧ Leaves url room ((trail further fragment).splitOn 0x26) := by
  rw [connects_enableSchema clean plain url room further fragment given]
  have hhe : ∀ piece later, (trail further fragment).splitOn 0x26 = piece :: later →
      piece = [] ∨ 0x23 ∈ piece :=
    fun piece later => trail_head further fragment
  generalize trail further fragment = rest at hhe
  -- Neither side holds with an `&` in the url or in the room.
  by_cases hu : 0x26 ∈ url
  · refine iff_of_false ?_ fun hun => hun.1 hu
    rintro ⟨-, hs, -⟩
    rw [← hs] at hu
    exact not_mem_lastValue not_mem_nil hu
  by_cases hr : 0x26 ∈ room
  · refine iff_of_false ?_ fun hun => hun.2.1 hr
    rintro ⟨-, -, hs⟩
    rw [← hs] at hr
    exact not_mem_lastValue not_mem_nil hr
  obtain ⟨piece, later, hp⟩ := exists_cons_of_ne_nil (splitOn_ne_nil 0x26 rest)
  rw [splitOn_queryOf hu hr hp, hp]
  have hur : literal "url" ≠ literal "room" := by decide
  have first := @valueOf?_param (literal "url") (by decide)
  have second := @valueOf?_param (literal "room") (by decide)
  cases later with
  | nil =>
    have hf : ¬ Trailing [literal "url" ++ 0x3D :: url,
        literal "room" ++ 0x3D :: (room ++ piece)] := by
      simp [Trailing]
    have hh : 0x23 ∈ literal "room" ++ 0x3D :: (room ++ piece) ↔ 0x23 ∈ room ∨ 0x23 ∈ piece := by
      have absent : 0x23 ∉ literal "room" := by decide
      simp [absent]
    rw [ParamLoop.readable_cons _ (cons_ne_nil _ _)]
    by_cases hd : 0x23 ∈ room ∨ 0x23 ∈ piece
    · have none : readable [literal "room" ++ 0x3D :: (room ++ piece)] = [] := by
        simp [readable, hh, hd]
      rw [none]
      simp only [hf, lastValue, foldl_cons, foldl_nil, first, hur, if_true, if_false,
        getD_some, getD_none, not_false_eq_true, true_and, hu, hr]
      constructor
      · exact fun he => .inl he.symm
      · rintro (he | ⟨hf, nothing⟩)
        · exact he.symm
        · rcases hd with inside | inside
          · exact absurd inside hf
          · rw [nothing] at inside
            cases inside
    · have all : readable [literal "room" ++ 0x3D :: (room ++ piece)] =
          [literal "room" ++ 0x3D :: (room ++ piece)] := by
        simp [readable, hh, hd]
      rw [all]
      rw [not_or] at hd
      have nothing : piece = [] := (hhe piece [] hp).resolve_right hd.2
      subst nothing
      rw [append_nil] at hf ⊢
      simp [hf, lastValue, first, second, hur, hur.symm, hd.1, hu, hr, Leaves]
  | cons next later =>
    have ht : Trailing ((literal "url" ++ 0x3D :: url) ::
        (literal "room" ++ 0x3D :: (room ++ piece)) ::
        next :: later) ↔ (next :: later).getLast? = some [] := by
      simp [Trailing]
    rw [ParamLoop.readable_cons _ (cons_ne_nil _ _), ParamLoop.readable_cons _ (cons_ne_nil _ _), ht]
    simp [lastValue, first, second, hur, hur.symm, hu, hr, Leaves]

theorem plain_schema_connects :
    Connects (enableSchema (literal "lynx") (literal "wss://host/page/android?a=50%")
      (literal "room 1")
      [(literal "float", literal "#")] (some (literal "top")))
        (literal "wss://host/page/android?a=50%")
        (literal "room 1") :=
  (enable_connects_iff (by decide) (by decide) (by decide) _ _ _).mpr (by decide +kernel)

/-- An `&` in the url cuts it off, a fragment takes the room with it, and on a room that ends with
an `&` the loop is never left. -/
theorem enable_disturbed :
    let cut := enableSchema (literal "lynx") (literal "wss://host/?a=1&b=2") (literal "room") [] none
    let dropped :=
      enableSchema (literal "lynx") (literal "wss://host") (literal "room") []
        (some (literal "top"))
    let endless := enableSchema (literal "lynx") (literal "wss://host") (literal "room&") [] none
    Connects cut (literal "wss://host/?a=1") (literal "room") ∧
      ¬ Connects cut (literal "wss://host/?a=1&b=2") (literal "room") ∧
      Connects dropped (literal "wss://host") [] ∧
        ¬ Connects dropped (literal "wss://host") (literal "room") ∧
      ∀ n, handleSchema n endless = none := by
  intro cut dropped endless
  refine ⟨⟨3, by decide +kernel⟩, ?_, ⟨2, by decide +kernel⟩, ?_, ?_⟩
  · rw [connects_enableSchema (by decide) (by decide) _ _ _ _ (by decide)]
    unfold Trailing
    decide +kernel
  · rw [connects_enableSchema (by decide) (by decide) _ _ _ _ (by decide)]
    unfold Trailing
    decide +kernel
  · intro n
    rw [handleSchema_enableSchema (by decide) (by decide)]
    cases n with
    | zero => rfl
    | succ n =>
      rw [ParamLoop.turns, @ParamLoop.turn_next _ (literal "url=wss://host") (literal "room=room&")
        (by decide) (by decide), ParamLoop.assign_eq]
      exact congrArg (Option.map _)
        (@ParamLoop.turns_trailing (literal "room=room") (by decide) n _ _)

end DebugRouter.Native
