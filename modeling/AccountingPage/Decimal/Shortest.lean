/-!
# The shortest decimal of a double

A double is printed with as few digits as identify it.  The reals that round to a finite double
fill an interval around it, and any decimal in that interval is read back as the same double.  So
the decimals with `1`, `2`, … significant digits are tried in turn, and of each kind only the
multiple of the grid's unit just below the double and the one just above: if a coarser grid has a
point in the interval at all, then one of these two is in it.

* `Magnitude` is a double without its sign, `Magnitude.ofBits` decodes it.
* `Span` is the interval of the reals that round to it, over a common denominator.
* `Span.nearest?` is the better neighbour on one grid, and `Span.shortest` the first grid's that
  has one.  Everything is exact arithmetic on natural numbers.
-/

set_option autoImplicit false

namespace AccountingPage
namespace Decimal

/-- How to choose between two decimals that are equally near. -/
inductive Tie where
  | toEven
  | away
deriving DecidableEq, Repr

/-- A finite double without its sign, `mantissa · 2 ^ exponent`. -/
structure Magnitude where
  mantissa : Nat
  exponent : Int
  /-- The next smaller double is only half as far away as the next greater one. -/
  narrowBelow : Bool
deriving DecidableEq, Repr

/-- Eleven bits of exponent and fifty-two of fraction; the hidden bit is absent where the exponent
bits are zero. -/
def Magnitude.ofBits (bits : UInt64) : Magnitude :=
  let e : Nat := bits.toNat / Nat.pow 2 52 % Nat.pow 2 11
  let f : Nat := bits.toNat % Nat.pow 2 52
  if e = 0 then ⟨f, -1074, false⟩
  else ⟨Nat.pow 2 52 + f, (e : Int) - 1075, f = 0 ∧ 1 < e⟩

/-- The reals that round to `value / den`: from `low / den` to `high / den`, ends included if
`closed`. -/
structure Span where
  low : Nat
  value : Nat
  high : Nat
  den : Nat
  closed : Bool
deriving DecidableEq, Repr

/-- Half way to either neighbour, in quarters of the last place; an end rounds to the double with
the even mantissa. -/
def Magnitude.span (x : Magnitude) : Span :=
  let q := x.exponent - 2
  let up := Nat.pow 2 q.toNat
  ⟨(4 * x.mantissa - if x.narrowBelow then 1 else 2) * up, 4 * x.mantissa * up,
    (4 * x.mantissa + 2) * up, Nat.pow 2 (-q).toNat, x.mantissa % 2 = 0⟩

def digitCount (n : Nat) : Nat := if n = 0 then 0 else (Nat.toDigits 10 n).length

/-- The `p` with `10 ^ (p - 1) ≤ value / den < 10 ^ p`. -/
def Span.point (s : Span) : Int :=
  if s.den ≤ s.value then digitCount (s.value / s.den)
  else 1 - digitCount ((s.den - 1) / s.value)

/-- The multiple of `10 ^ place` next to the value that lies in the interval; of two the nearer,
and `tie` decides where both are equally near. -/
def Span.nearest? (s : Span) (tie : Tie) (place : Int) : Option Nat :=
  let unit := Nat.pow 10 place.toNat * s.den
  let scale := Nat.pow 10 (-place).toNat
  let inside (c : Nat) : Bool :=
    if s.closed then s.low * scale ≤ c * unit && c * unit ≤ s.high * scale
    else s.low * scale < c * unit && c * unit < s.high * scale
  let below := s.value * scale / unit
  let gap := 2 * (s.value * scale % unit)
  match inside below, inside (below + 1) with
  | false, false => none
  | true, false => some below
  | false, true => some (below + 1)
  | true, true =>
    if gap < unit then some below
    else if unit < gap then some (below + 1)
    else match tie with
      | .toEven => some (if below % 2 = 0 then below else below + 1)
      | .away => some (below + 1)

/-- Significant digits without zeros at the end, and the place of the decimal point relative to
the first of them: `0.d₁d₂… · 10 ^ point`. -/
structure Digits where
  digits : List Char
  point : Int
deriving DecidableEq, Repr

/-- The decimal `c · 10 ^ place`. -/
def Digits.ofScaled (c : Nat) (place : Int) : Digits :=
  let ds := Nat.toDigits 10 c
  ⟨(ds.reverse.dropWhile (· == '0')).reverse, ds.length + place⟩

/-- The fewest digits that read back; seventeen are always enough for a double. -/
def Span.shortest (s : Span) (tie : Tie) : Digits :=
  let places := (List.range 17).map fun n : Nat => s.point - (n + 1 : Nat)
  match places.findSome? fun place => (s.nearest? tie place).map (·, place) with
  | some (c, place) => .ofScaled c place
  | none => ⟨[], 0⟩

end Decimal
end AccountingPage
