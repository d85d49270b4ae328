import AccountingPage.Decimal.Shortest

/-!
# Writing a double

The digits of a double are settled by `Decimal.Shortest`; what remains is where the point goes and
when an exponent is written instead of zeros.  A `Style` fixes those choices for one purpose.

* `Digits.plain` and `Digits.scientific` are the two layouts.
* `write` puts sign, digits and layout together.
-/

set_option autoImplicit false

namespace AccountingPage
namespace Decimal

structure Style where
  tie : Tie
  /-- Whether a number whose point stands after so many digits is written without an exponent. -/
  plainAt : Int → Bool
  /-- Whether a whole number without an exponent ends in `.0`. -/
  keepPoint : Bool

/-- Zeros fill the places between the digits and the point. -/
def Digits.plain (d : Digits) (keepPoint : Bool) : List Char :=
  if d.point ≤ 0 then '0' :: '.' :: List.replicate (-d.point).toNat '0' ++ d.digits
  else
    let whole := d.point.toNat
    let tail := d.digits.drop whole
    let head := d.digits.take whole ++ List.replicate (whole - d.digits.length) '0'
    if tail.isEmpty then (if keepPoint then head ++ ['.', '0'] else head)
    else head ++ '.' :: tail

/-- One digit before the point, and the exponent with its sign. -/
def Digits.scientific (d : Digits) : List Char :=
  let exponent := d.point - 1
  let tail := d.digits.drop 1
  d.digits.take 1 ++ (if tail.isEmpty then [] else '.' :: tail) ++
    ['e', if exponent < 0 then '-' else '+'] ++ Nat.toDigits 10 exponent.natAbs

def writeMagnitude (style : Style) (x : Magnitude) : List Char :=
  let d := if x.mantissa = 0 then ⟨['0'], 1⟩ else x.span.shortest style.tie
  if style.plainAt d.point then d.plain style.keepPoint else d.scientific

/-- A zero keeps its sign. -/
def write (style : Style) (x : Float) : String :=
  if x.isNaN then "NaN"
  else
    let bits := x.toBits
    let sign := if bits.toNat / Nat.pow 2 63 = 1 then ['-'] else []
    let body := if x.isInf then ['i', 'n', 'f'] else writeMagnitude style (.ofBits bits)
    String.ofList (sign ++ body)

end Decimal
end AccountingPage
