import DebugRouter.Library.Json

/-!
`JSON.parse` and `JSON.stringify` on lists of characters. Parsing takes fuel for its
nesting; the length of the text is always enough. A `\u` escape that is half of a
surrogate pair is read as U+FFFD, since a string here is a list of scalar values.
-/
namespace DebugRouter.Library.JsonText

def isSpace (c : Char) : Bool := c = ' ' || c = '\t' || c = '\n' || c = '\r'

def skip (cs : List Char) : List Char := cs.dropWhile isSpace

/- Numbers -/

def digits (cs : List Char) : List Char := cs.takeWhile Char.isDigit

def afterDigits (cs : List Char) : List Char := cs.dropWhile Char.isDigit

def digitsValue (ds : List Char) : Nat := Nat.ofDigitChars 10 ds 0

def parseFraction : List Char → Option (List Char × List Char)
  | [] => some ([], [])
  | c :: rest =>
    if c = '.' then
      if digits rest = [] then none else some (digits rest, afterDigits rest)
    else some ([], c :: rest)

def parseSign : List Char → Bool × List Char
  | [] => (false, [])
  | c :: rest =>
    if c = '-' then (true, rest) else if c = '+' then (false, rest) else (false, c :: rest)

def parseExponent : List Char → Option (Int × List Char)
  | [] => some (0, [])
  | c :: rest =>
    if c = 'e' ∨ c = 'E' then
      let (negative, body) := parseSign rest
      if digits body = [] then none
      else some (JsNumber.signed negative (digitsValue (digits body)), afterDigits body)
    else some (0, c :: rest)

def parseMagnitude (negative : Bool) (cs : List Char) : Option (JsNumber × List Char) :=
  let whole := digits cs
  if whole = [] ∨ (whole.head? = some '0' ∧ whole ≠ ['0']) then none
  else do
    let (fraction, rest) ← parseFraction (afterDigits cs)
    let (exponent, rest) ← parseExponent rest
    some (JsNumber.ofDecimal negative (digitsValue (whole ++ fraction))
      (exponent - fraction.length), rest)

def parseNumber : List Char → Option (JsNumber × List Char)
  | [] => none
  | c :: rest => if c = '-' then parseMagnitude true rest else parseMagnitude false (c :: rest)

/- Strings -/

def hexValue (c : Char) : Option Nat :=
  if c.isDigit then some (c.toNat - 48)
  else if 'a' ≤ c ∧ c ≤ 'f' then some (c.toNat - 87)
  else if 'A' ≤ c ∧ c ≤ 'F' then some (c.toNat - 55)
  else none

def unescape (c : Char) : Option Nat :=
  if c = '"' ∨ c = '\\' ∨ c = '/' then some c.toNat
  else if c = 'b' then some 8
  else if c = 't' then some 9
  else if c = 'n' then some 10
  else if c = 'f' then some 12
  else if c = 'r' then some 13
  else none

/-- The code units up to the closing quote, a raw character counting as its scalar value. -/
def parseUnits : List Char → Option (List Nat × List Char)
  | [] => none
  | c :: rest =>
    if c = '"' then some ([], rest)
    else if c = '\\' then
      match rest with
      | [] => none
      | e :: rest =>
        if e = 'u' then
          match rest with
          | h₁ :: h₂ :: h₃ :: h₄ :: rest => do
            let d₁ ← hexValue h₁
            let d₂ ← hexValue h₂
            let d₃ ← hexValue h₃
            let d₄ ← hexValue h₄
            let (units, rest) ← parseUnits rest
            some ((16 * (16 * (16 * d₁ + d₂) + d₃) + d₄) :: units, rest)
          | _ => none
        else do
          let unit ← unescape e
          let (units, rest) ← parseUnits rest
          some (unit :: units, rest)
    else if c.toNat < 32 then none
    else do
      let (units, rest) ← parseUnits rest
      some (c.toNat :: units, rest)

def isHighSurrogate (u : Nat) : Bool := 0xD800 ≤ u && u < 0xDC00

def isLowSurrogate (u : Nat) : Bool := 0xDC00 ≤ u && u < 0xE000

def joinSurrogates : List Nat → List Char
  | [] => []
  | u :: rest =>
    if isHighSurrogate u then
      match rest with
      | [] => [Char.ofNat 0xFFFD]
      | low :: more =>
        if isLowSurrogate low then
          Char.ofNat (0x10000 + 1024 * (u - 0xD800) + (low - 0xDC00)) :: joinSurrogates more
        else Char.ofNat 0xFFFD :: joinSurrogates (low :: more)
    else if isLowSurrogate u then Char.ofNat 0xFFFD :: joinSurrogates rest
    else Char.ofNat u :: joinSurrogates rest

def parseString (cs : List Char) : Option (String × List Char) := do
  let (units, rest) ← parseUnits cs
  some (String.ofList (joinSurrogates units), rest)

def expect (word cs : List Char) : Option (List Char) :=
  if word <+: cs then some (cs.drop word.length) else none

/- Values -/

mutual
def parseValue : Nat → List Char → Option (Json × List Char)
  | 0, _ => none
  | fuel + 1, cs =>
    match skip cs with
    | [] => none
    | c :: rest =>
      if c = '"' then (parseString rest).map fun (s, rest) => (.str s, rest)
      else if c = '[' then
        if (skip rest).head? = some ']' then some (.arr [], (skip rest).tail)
        else (parseItems fuel rest).map fun (items, rest) => (.arr items, rest)
      else if c = '\x7b' then
        if (skip rest).head? = some '\x7d' then some (.obj [], (skip rest).tail)
        else (parseFields fuel rest).map fun (fields, rest) => (.obj (assignAll fields), rest)
      else if c = 'n' then (expect "ull".toList rest).map fun rest => (.null, rest)
      else if c = 't' then (expect "rue".toList rest).map fun rest => (.bool true, rest)
      else if c = 'f' then (expect "alse".toList rest).map fun rest => (.bool false, rest)
      else (parseNumber (c :: rest)).map fun (n, rest) => (.num n, rest)
def parseItems : Nat → List Char → Option (List Json × List Char)
  | 0, _ => none
  | fuel + 1, cs => do
    let (v, rest) ← parseValue fuel cs
    match skip rest with
    | [] => none
    | c :: rest =>
      if c = ']' then some ([v], rest)
      else if c = ',' then do
        let (items, rest) ← parseItems fuel rest
        some (v :: items, rest)
      else none
def parseFields : Nat → List Char → Option (List (String × Json) × List Char)
  | 0, _ => none
  | fuel + 1, cs =>
    match skip cs with
    | [] => none
    | c :: rest =>
      if c = '"' then do
        let (key, rest) ← parseString rest
        match skip rest with
        | [] => none
        | c :: rest =>
          if c = ':' then do
            let (v, rest) ← parseValue fuel rest
            match skip rest with
            | [] => none
            | c :: rest =>
              if c = '\x7d' then some ([(key, v)], rest)
              else if c = ',' then do
                let (fields, rest) ← parseFields fuel rest
                some ((key, v) :: fields, rest)
              else none
          else none
      else none
end

def parse (text : String) : Option Json :=
  match parseValue (text.toList.length + 1) text.toList with
  | some (v, rest) => if skip rest = [] then some v else none
  | none => none

/- Rendering -/

def nearest (num den : Nat) : Nat :=
  let k := num / den
  let r := num % den
  if 2 * r < den then k else if den < 2 * r then k + 1 else k + k % 2

/-- The power of ten just above a magnitude of `u` units. -/
def pointPosition (u : Nat) : Int :=
  if unit ≤ u then (Nat.toDigits 10 (u / unit)).length
  else 1 - (((List.range 330).find? fun m => unit ≤ u * 10 ^ m).getD 0 : Nat)

def nearestCoefficient (u : Nat) : Int → Nat
  | .ofNat e => nearest u (unit * 10 ^ e)
  | .negSucc e => nearest (u * 10 ^ (e + 1)) unit

/-- The `k`-digit decimal nearest to `u` units, if it reads back as `u`. -/
def shortDecimal (u k : Nat) : Option (Nat × Int) :=
  let exponent := pointPosition u - k
  let s := nearestCoefficient u exponent
  let decimal := if s = 10 ^ k then (1, exponent + k) else (s, exponent)
  if JsNumber.decimalUnits decimal.1 decimal.2 = u then some decimal else none

/-- The shortest decimal that reads back as `u` units. Seventeen digits always suffice;
the exact expansion stands in for that fact. -/
def shortestDecimal (u : Nat) : Nat × Int :=
  ((List.range 17).findSome? fun i => shortDecimal u (i + 1)).getD
    (u * 5 ^ unitExponent, -unitExponent)

/-- `Number::toString` of `s · 10 ^ exponent`. -/
def decimalText (s : Nat) (exponent : Int) : List Char :=
  let ds := Nat.toDigits 10 s
  let point := ds.length + exponent
  if 0 ≤ exponent ∧ point ≤ 21 then ds ++ List.replicate exponent.toNat '0'
  else if 0 < point ∧ point ≤ 21 then
    ds.take point.toNat ++ '.' :: ds.drop point.toNat
  else if -6 < point ∧ point ≤ 0 then
    '0' :: '.' :: List.replicate (-point).toNat '0' ++ ds
  else
    let mantissa := if ds.length = 1 then ds else ds.take 1 ++ '.' :: ds.drop 1
    mantissa ++ 'e' :: (if point - 1 < 0 then '-' else '+') :: Nat.toDigits 10 (point - 1).natAbs

/-- A magnitude in units as text; integers up to 2^53 are written out in full. -/
def magnitudeText (u : Nat) : List Char :=
  if u % unit = 0 ∧ u / unit ≤ 2 ^ 53 then Nat.toDigits 10 (u / unit)
  else decimalText (shortestDecimal u).1 (shortestDecimal u).2

def finiteText (x : Double) : List Char :=
  if x.units < 0 then '-' :: magnitudeText x.units.natAbs else magnitudeText x.units.natAbs

def renderNumber : JsNumber → List Char
  | .finite x => finiteText x
  | .infinite _ => "null".toList

def hexDigit (n : Nat) : Char := Nat.digitChar n

def escape (c : Char) : List Char :=
  if c = '"' then ['\\', '"']
  else if c = '\\' then ['\\', '\\']
  else if c.toNat = 8 then ['\\', 'b']
  else if c.toNat = 9 then ['\\', 't']
  else if c.toNat = 10 then ['\\', 'n']
  else if c.toNat = 12 then ['\\', 'f']
  else if c.toNat = 13 then ['\\', 'r']
  else if c.toNat < 32 then
    ['\\', 'u', '0', '0', hexDigit (c.toNat / 16), hexDigit (c.toNat % 16)]
  else [c]

def renderString (s : String) : List Char := '"' :: (s.toList.flatMap escape ++ ['"'])

mutual
def render : Json → List Char
  | .null => "null".toList
  | .bool true => "true".toList
  | .bool false => "false".toList
  | .num n => renderNumber n
  | .str s => renderString s
  | .arr [] => ['[', ']']
  | .arr (v :: rest) => '[' :: (render v ++ renderItems rest)
  | .obj [] => ['\x7b', '\x7d']
  | .obj ((key, v) :: rest) => '\x7b' :: (renderString key ++ ':' :: (render v ++ renderFields rest))
def renderItems : List Json → List Char
  | [] => [']']
  | v :: rest => ',' :: (render v ++ renderItems rest)
def renderFields : List (String × Json) → List Char
  | [] => ['\x7d']
  | (key, v) :: rest => ',' :: (renderString key ++ ':' :: (render v ++ renderFields rest))
end

def stringify (v : Json) : String := String.ofList (render v)

end DebugRouter.Library.JsonText
