/-!
# Binary floating point numbers of 64 bits

A number is kept as its bit pattern, so that two patterns are equal or not by decision. A
finite number is `mantissa * 2 ^ exponent` with a sign. Main definitions: `Binary64.decode`,
the integer `Binary64.toInt?` that a number is equal to, and the exact comparison with an
integer, `Binary64.equalsInt`.
-/

namespace BlogGraph

/-- A floating point number of 64 bits, as its bit pattern. -/
structure Binary64 where
  bits : UInt64
deriving DecidableEq, Repr, Inhabited

namespace Binary64

/-- The bit pattern of a machine number. -/
def ofFloat (x : Float) : Binary64 := ⟨x.toBits⟩

/-- The machine number with this bit pattern. -/
def toFloat (x : Binary64) : Float := Float.ofBits x.bits

/-- The number nearest to `mantissa * 10 ^ exponent`. Outside the range of the format it is
zero or infinite, which is settled before any power of ten is computed. -/
def ofDecimal (negative : Bool) (mantissa : Nat) (exponent : Int) : Binary64 :=
  let lead := exponent + (Nat.toDigits 10 mantissa).length
  let size :=
    if mantissa = 0 || lead < -400 then 0.0
    else if lead > 400 then 1.0 / 0.0
    else if exponent < 0 then Float.ofScientific mantissa true exponent.natAbs
    else Float.ofScientific mantissa false exponent.natAbs
  ofFloat (if negative then -size else size)

/-- The number nearest to an integer. -/
def ofInt (n : Int) : Binary64 := ofDecimal (n < 0) n.natAbs 0

/-- The parts of a finite number: its value is `mantissa * 2 ^ exponent`, negated when
`negative` holds. -/
structure Parts where
  negative : Bool
  mantissa : Nat
  exponent : Int
deriving DecidableEq, Repr

/-- What a bit pattern stands for. -/
inductive Decoded where
  | notANumber
  | infinite (negative : Bool)
  | finite (parts : Parts)
deriving DecidableEq, Repr

/-- What a bit pattern stands for: one bit of sign, eleven of exponent, 52 of fraction. -/
def decode (x : Binary64) : Decoded :=
  let n := x.bits.toNat
  let negative : Bool := n / Nat.pow 2 63 = 1
  let biased : Nat := n / Nat.pow 2 52 % Nat.pow 2 11
  let fraction : Nat := n % Nat.pow 2 52
  if biased = 2047 then
    if fraction = 0 then .infinite negative else .notANumber
  else if biased = 0 then .finite ⟨negative, fraction, -1074⟩
  else .finite ⟨negative, Nat.pow 2 52 + fraction, (biased : Int) - 1075⟩

/-- The integer part of a finite number, toward zero. -/
def Parts.truncate (p : Parts) : Int :=
  let size : Nat :=
    if p.exponent < 0 then p.mantissa / Nat.pow 2 p.exponent.natAbs
    else p.mantissa * Nat.pow 2 p.exponent.natAbs
  if p.negative then -(size : Int) else size

/-- A finite number without a fractional part. -/
def Parts.isWhole (p : Parts) : Bool :=
  0 ≤ p.exponent || p.mantissa % Nat.pow 2 p.exponent.natAbs = 0

/-- The integer that a number is equal to, if there is one. -/
def toInt? (x : Binary64) : Option Int :=
  match x.decode with
  | .finite p => if p.isWhole then some p.truncate else none
  | _ => none

/-- A number equals an integer, compared exactly. -/
def equalsInt (x : Binary64) (n : Int) : Bool :=
  x.toInt? = some n

/-- The number that is the product of two, rounded to nearest. -/
def mul (x y : Binary64) : Binary64 := ofFloat (x.toFloat * y.toFloat)

end Binary64
end BlogGraph
