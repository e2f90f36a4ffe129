import BlogGraph.Decimal.Shortest

/-!
# Decimals with a given number of places

A binary number rounded to a number of decimal places or of significant digits, computed
exactly; a half goes to the even neighbour.
-/

namespace BlogGraph.Decimal

/-- The nearest whole number to `num / den`, a half going to the even neighbour. -/
def roundDiv (num den : Nat) : Nat :=
  let q := num / den
  let r := num % den
  if 2 * r < den then q else if den < 2 * r then q + 1 else q + q % 2

/-- A fraction in units of `10 ^ unit`, rounded. -/
def inUnits (v : Ratio) (unit : Int) : Nat :=
  if unit < 0 then roundDiv (v.num * Nat.pow 10 unit.natAbs) v.den
  else roundDiv v.num (v.den * Nat.pow 10 unit.natAbs)

/-- A digit string with at least `width` digits. -/
def paddedDigits (width n : Nat) : List Char :=
  let ds := Nat.toDigits 10 n
  List.replicate (width - ds.length) '0' ++ ds

/-- The point and the digits after it; without digits the point is written only on demand. -/
def withPoint (alwaysPoint : Bool) (whole fraction : List Char) : List Char :=
  if fraction.isEmpty && !alwaysPoint then whole else whole ++ '.' :: fraction

/-- Positional text with `places` digits after the point. -/
def fixedText (alwaysPoint : Bool) (places : Nat) (v : Ratio) : List Char :=
  let ds := paddedDigits (places + 1) (inUnits v (-(places : Int)))
  withPoint alwaysPoint (ds.take (ds.length - places)) (ds.drop (ds.length - places))

/-- The leading `places + 1` significant digits and the power of ten of the first of them. -/
def significant (places : Nat) (v : Ratio) : List Char × Int :=
  if v.num = 0 then (List.replicate (places + 1) '0', 0)
  else
    let power := leadingExponent v
    let ds := Nat.toDigits 10 (inUnits v (power - places))
    if ds.length > places + 1 then (ds.take (places + 1), power + 1) else (ds, power)

/-- The exponent with its sign and at least two digits. -/
def exponentText (power : Int) : List Char :=
  'e' :: (if power < 0 then '-' else '+') :: paddedDigits 2 power.natAbs

/-- Text with one digit before the point, `places` after it, and an exponent. -/
def scientificText (alwaysPoint : Bool) (places : Nat) (v : Ratio) : List Char :=
  let (ds, power) := significant places v
  withPoint alwaysPoint (ds.take 1) (ds.drop 1) ++ exponentText power

/-- Digits without trailing zeros. -/
def dropTrailingZeros (ds : List Char) : List Char :=
  (ds.reverse.dropWhile (· == '0')).reverse

/-- Text with `digits` significant digits, positional or with an exponent, whichever suits the
size. Trailing zeros are kept only on demand. -/
def generalText (keepZeros : Bool) (digits : Nat) (v : Ratio) : List Char :=
  let count := max digits 1
  let (ds, power) := significant (count - 1) v
  let kept := fun (fraction : List Char) =>
    if keepZeros then fraction else dropTrailingZeros fraction
  if -4 ≤ power && power < count then
    if power < 0 then
      withPoint keepZeros ['0'] (kept (List.replicate (power.natAbs - 1) '0' ++ ds))
    else withPoint keepZeros (ds.take (power.natAbs + 1)) (kept (ds.drop (power.natAbs + 1)))
  else withPoint keepZeros (ds.take 1) (kept (ds.drop 1)) ++ exponentText power

end BlogGraph.Decimal
