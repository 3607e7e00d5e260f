import DebugRouter.Library.JsonText

/-!
The implicit conversions of ECMAScript on parsed JSON: to a string, where a function such as
`JSON.parse` is given some other value, and to a number, in a comparison with `==`. `none` is
the `TypeError` of an object whose `toString` is hidden by a field of that name.
-/
namespace DebugRouter.Library

open JsonText JsNumber

def numberText : JsNumber → List Char
  | .finite x => finiteText x
  | .infinite false => "Infinity".toList
  | .infinite true => "-Infinity".toList

mutual
def toText : Json → Option (List Char)
  | .null => some "null".toList
  | .bool b => some (toString b).toList
  | .num n => some (numberText n)
  | .str s => some s.toList
  | .arr [] => some []
  | .arr (v :: rest) => do some ((← itemText v) ++ (← joinTexts rest))
  | .obj fields =>
    if (Json.obj fields).hasOwn "toString" then none else some "[object Object]".toList
def itemText : Json → Option (List Char)
  | .null => some []
  | .bool b => some (toString b).toList
  | .num n => some (numberText n)
  | .str s => some s.toList
  | .arr [] => some []
  | .arr (v :: rest) => do some ((← itemText v) ++ (← joinTexts rest))
  | .obj fields =>
    if (Json.obj fields).hasOwn "toString" then none else some "[object Object]".toList
def joinTexts : List Json → Option (List Char)
  | [] => some []
  | v :: rest => do some (',' :: (← itemText v) ++ (← joinTexts rest))
end

def isStrWhiteSpace (c : Char) : Bool :=
  c.toNat ∈ [9, 10, 11, 12, 13, 32, 160, 5760, 8232, 8233, 8239, 8287, 12288, 65279] ||
    (8192 ≤ c.toNat && c.toNat ≤ 8202)

def trimText (cs : List Char) : List Char :=
  ((cs.dropWhile isStrWhiteSpace).reverse.dropWhile isStrWhiteSpace).reverse

/-- Decimal literals of `Number`: leading zeros and a bare point are allowed. -/
def strDecimal (negative : Bool) (cs : List Char) : Option JsNumber :=
  if cs = "Infinity".toList then some (.infinite negative)
  else
    let whole := digits cs
    let rest := afterDigits cs
    let fraction := if rest.head? = some '.' then digits rest.tail else []
    let rest := if rest.head? = some '.' then afterDigits rest.tail else rest
    if whole ++ fraction = [] then none
    else do
      let (exponent, rest) ← parseExponent rest
      if rest = [] then
        some (ofDecimal negative (digitsValue (whole ++ fraction)) (exponent - fraction.length))
      else none

def strRadix (base : Nat) (cs : List Char) : Option JsNumber := do
  let values ← cs.mapM hexValue
  if values ≠ [] ∧ ∀ d ∈ values, d < base then
    some (ofDecimal false (values.foldl (fun n d => n * base + d) 0) 0)
  else none

def stringToNumber (text : List Char) : Option JsNumber :=
  match trimText text with
  | [] => some (ofInt 0)
  | '-' :: rest => strDecimal true rest
  | '+' :: rest => strDecimal false rest
  | '0' :: x :: rest =>
    if x = 'x' ∨ x = 'X' then strRadix 16 rest
    else if x = 'o' ∨ x = 'O' then strRadix 8 rest
    else if x = 'b' ∨ x = 'B' then strRadix 2 rest
    else strDecimal false ('0' :: x :: rest)
  | cs => strDecimal false cs

/-- `v == n` for a number `n`; `none` when the comparison throws. -/
def looselyEqual (v : Json) (n : JsNumber) : Option Bool :=
  match v with
  | .null => some false
  | .bool b => some (ofInt b.toInt = n)
  | .num m => some (m = n)
  | .str s => some (stringToNumber s.toList = some n)
  | v => (toText v).map fun text => decide (stringToNumber text = some n)

end DebugRouter.Library
