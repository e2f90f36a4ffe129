import BlogGraph.Decimal.Shortest

/-!
# The text of a floating point number

The shortest digits that read back, written positionally when the leading digit stands
between `10 ^ -4` and `10 ^ 15`, and with an exponent of at least two digits otherwise. A
whole number keeps one zero after its point.
-/

namespace BlogGraph

/-- The decisions that make a text out of digits. -/
structure FloatStyle where
  /-- Least power of ten of the leading digit that is written positionally. -/
  leastPositional : Int
  /-- Least power of ten that is written with an exponent. -/
  leastExponential : Int
  infinity : String
  notANumber : String

namespace FloatStyle

/-- How messages show a floating point number. -/
def shown : FloatStyle := ⟨-4, 16, "inf", "nan"⟩

/-- How a data document shows a floating point number. -/
def data : FloatStyle := ⟨-4, 16, "Infinity", "NaN"⟩

private def digitText (ds : List Nat) : String :=
  String.ofList (ds.map fun d => Char.ofNat (48 + d))

private def zeros (n : Nat) : String :=
  String.ofList (List.replicate n '0')

/-- The digits with a point where it belongs. -/
def positional (d : Decimal.Digits) : String :=
  let count := d.digits.length
  if d.point ≤ 0 then "0." ++ zeros d.point.natAbs ++ digitText d.digits
  else
    let whole := d.point.natAbs
    if count ≤ whole then digitText d.digits ++ zeros (whole - count) ++ ".0"
    else digitText (d.digits.take whole) ++ "." ++ digitText (d.digits.drop whole)

/-- One digit before the point, and the power of ten with its sign. -/
def exponential (d : Decimal.Digits) : String :=
  let power := d.point - 1
  let lead := digitText (d.digits.take 1)
  let rest := digitText (d.digits.drop 1)
  let size := toString power.natAbs
  let padded := if size.length < 2 then "0" ++ size else size
  lead ++ (if rest.isEmpty then "" else "." ++ rest) ++ "e" ++ (if power < 0 then "-" else "+") ++
    padded

/-- The text of a number in this style. -/
def text (style : FloatStyle) (x : Binary64) : String :=
  match x.decode with
  | .notANumber => style.notANumber
  | .infinite negative => (if negative then "-" else "") ++ style.infinity
  | .finite p =>
    let sign := if p.negative then "-" else ""
    if p.mantissa = 0 then sign ++ "0.0"
    else
      let d := Decimal.shortest p.mantissa p.exponent
      let power := d.point - 1
      sign ++ if style.leastPositional ≤ power && power < style.leastExponential then positional d
        else exponential d

end FloatStyle
end BlogGraph
