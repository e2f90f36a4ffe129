import BlogGraph.Decimal.Binary64

/-!
# Shortest decimal digits

The fewest decimal digits that read back as a given binary number, and of those the ones
nearest to it. The real numbers that read back as the number form an interval; for one digit,
two digits and so on the two decimal neighbours of the number are tried, and the first length
with a neighbour inside the interval is taken. All comparisons are exact, on natural numbers.
-/

namespace BlogGraph.Decimal

/-- Digits and the position of the point: the value is `0.d₁d₂… * 10 ^ point`. -/
structure Digits where
  digits : List Nat
  point : Int
deriving DecidableEq, Repr

/-- A fraction of natural numbers. -/
structure Ratio where
  num : Nat
  den : Nat
deriving DecidableEq, Repr

namespace Ratio

def le (a b : Ratio) : Bool := a.num * b.den ≤ b.num * a.den

def lt (a b : Ratio) : Bool := a.num * b.den < b.num * a.den

/-- `n * 2 ^ e` -/
def ofBinary (n : Nat) (e : Int) : Ratio :=
  if e < 0 then ⟨n, Nat.pow 2 e.natAbs⟩ else ⟨n * Nat.pow 2 e.natAbs, 1⟩

/-- `n * 10 ^ e` -/
def ofDecimal (n : Nat) (e : Int) : Ratio :=
  if e < 0 then ⟨n, Nat.pow 10 e.natAbs⟩ else ⟨n * Nat.pow 10 e.natAbs, 1⟩

/-- The distance between two fractions. -/
def distance (a b : Ratio) : Ratio :=
  let x := a.num * b.den
  let y := b.num * a.den
  ⟨(x - y) + (y - x), a.den * b.den⟩

end Ratio

/-- The interval of values that read back as `mantissa * 2 ^ exponent`: its ends, and whether
they belong to it. Just above a power of two the lower neighbour is twice as near. -/
def interval (mantissa : Nat) (exponent : Int) : Ratio × Ratio × Bool :=
  let below := if mantissa = Nat.pow 2 52 && exponent ≠ -1074 then 1 else 2
  (Ratio.ofBinary (4 * mantissa - below) (exponent - 2),
    Ratio.ofBinary (4 * mantissa + 2) (exponent - 2), mantissa % 2 = 0)

/-- The value lies in the interval. -/
def inInterval (bounds : Ratio × Ratio × Bool) (v : Ratio) : Bool :=
  if bounds.2.2 then bounds.1.le v && v.le bounds.2.1 else bounds.1.lt v && v.lt bounds.2.1

/-- The least `k ≥ start` with `num * 10 ^ k ≥ den`, searched for `fuel` steps. -/
def leadingZeros (num den : Nat) : Nat → Nat → Nat
  | 0, k => k
  | fuel + 1, k => if den ≤ num * Nat.pow 10 k then k else leadingZeros num den fuel (k + 1)

/-- The power of ten of the leading digit of a positive fraction. A positive binary number of
64 bits is above `10 ^ -324`, which bounds the search. -/
def leadingExponent (r : Ratio) : Int :=
  if r.den ≤ r.num then ((Nat.toDigits 10 (r.num / r.den)).length : Int) - 1
  else -(leadingZeros r.num r.den 400 1 : Int)

/-- Of the two decimals with `count` digits next to a value, the nearer one inside the
interval. -/
def nearestWith (bounds : Ratio × Ratio × Bool) (v : Ratio) (count : Nat) : Option (Nat × Int) :=
  let scale := leadingExponent v - ((count : Int) - 1)
  let low := if scale < 0 then v.num * Nat.pow 10 scale.natAbs / v.den
    else v.num / (v.den * Nat.pow 10 scale.natAbs)
  let candidate := fun (n : Nat) => Ratio.ofDecimal n scale
  let lowFits := inInterval bounds (candidate low)
  let highFits := inInterval bounds (candidate (low + 1))
  if lowFits && highFits then
    let dl := (candidate low).distance v
    let dh := (candidate (low + 1)).distance v
    if dl.lt dh || (!dh.lt dl && low % 2 = 0) then some (low, scale) else some (low + 1, scale)
  else if lowFits then some (low, scale)
  else if highFits then some (low + 1, scale)
  else none

/-- The decimal digits of a number. -/
def digitsOf (n : Nat) : List Nat :=
  (Nat.toDigits 10 n).map fun c => c.toNat - 48

/-- Digits without trailing zeros. -/
def trimZeros (ds : List Nat) : List Nat :=
  (ds.reverse.dropWhile (· == 0)).reverse

/-- The shortest digits of `mantissa * 2 ^ exponent`. Seventeen digits always suffice. -/
def shortest (mantissa : Nat) (exponent : Int) : Digits :=
  if mantissa = 0 then ⟨[], 0⟩
  else
    let v := Ratio.ofBinary mantissa exponent
    let bounds := interval mantissa exponent
    match (List.range 17).findSome? fun k => nearestWith bounds v (k + 1) with
    | some (n, scale) =>
      let ds := digitsOf n
      ⟨trimZeros ds, scale + ds.length⟩
    | none => ⟨[], 0⟩

end BlogGraph.Decimal
