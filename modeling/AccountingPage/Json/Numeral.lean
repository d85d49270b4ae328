import AccountingPage.Json.Reading
import AccountingPage.Text.Numeral

/-!
# Reading a number

A number without fraction and exponent is kept whole if it is below `2 ^ 64`, or not below
`-2 ^ 63` if it is negative; `-0` and every other number is a double.  The double is *not* the one
nearest to the decimal that is written: the digits are gathered into a whole number below `2 ^ 64`,
that number is made a double, and the double is multiplied or divided by a power of ten, with one
rounding each time.

* `gather` collects digits up to a limit.
* `Scaled` is a whole number and a power of ten, `Scaled.toDouble?` its double, if it has one.
* `numeral` reads a number after its minus sign, if it has one.
-/

set_option autoImplicit false

namespace AccountingPage
namespace Json

/-- Appends digits to `m` as long as the number does not exceed `limit`, and gives back the digits
that are left over. -/
def gather (limit m : Nat) : List Char → Nat × List Char
  | [] => (m, [])
  | c :: cs =>
    let m' := 10 * m + (c.toNat - '0'.toNat)
    if m' ≤ limit then gather limit m' cs else (m, c :: cs)

/-- The number `significand · 10 ^ exponent`. -/
structure Scaled where
  significand : Nat
  exponent : Int
deriving DecidableEq, Repr

def powerOfTen (n : Nat) : Float := Float.ofScientific 1 false n

/-- The greatest power of ten among the doubles is `10 ^ 308`.  A smaller exponent than its
negative is reached by dividing by that power first, until the rest is small enough or the quotient
is zero; a greater one is out of range. -/
def scale : Nat → Float → Int → Option Float
  | 0, x, _ => some x
  | turns + 1, x, exponent =>
    if exponent.natAbs ≤ 308 then
      if 0 ≤ exponent then
        let y := x * powerOfTen exponent.natAbs
        if y.isInf then none else some y
      else some (x / powerOfTen exponent.natAbs)
    else if x == 0 then some x
    else if 0 ≤ exponent then none
    else scale turns (x / powerOfTen 308) (exponent + 308)

def Scaled.toDouble? (s : Scaled) : Option Float :=
  scale (s.exponent.natAbs / 308 + 1) (UInt64.ofNat s.significand).toFloat s.exponent

def signed (negative : Bool) (x : Float) : Number := .double (if negative then -x else x)

def Scaled.toNumber (s : Scaled) (negative : Bool) : Reader Number := fun rest =>
  match s.toDouble? with
  | some x => .ok (signed negative x, rest)
  | none => fault .numberOutOfRange rest

/-- The point and the digits after it, if there is a point.  Each digit that still fits makes the
exponent smaller by one; the others are dropped. -/
def fraction (s : Scaled) : Reader Scaled
  | '.' :: cs =>
    match cs.takeWhile Char.isDigit, cs.dropWhile Char.isDigit with
    | [], [] => faultPast .eofInValue []
    | [], rest => faultPast .invalidNumber rest
    | digits, rest =>
      let (m, dropped) := gather (Nat.pow 2 64 - 1) s.significand digits
      .ok (⟨m, s.exponent - (digits.length - dropped.length : Nat)⟩, rest)
  | cs => .ok (s, cs)

/-- The digits of an exponent.  One that reaches `2 ^ 31` makes the number zero, or out of range if
it is positive and the significand is not zero. -/
def exponentDigits (s : Scaled) (negative down : Bool) : Reader Number := fun cs =>
  match cs.takeWhile Char.isDigit, cs.dropWhile Char.isDigit with
  | [], [] => fault .eofInValue []
  | [], rest => faultPast .invalidNumber rest
  | digits, rest =>
    match gather (Nat.pow 2 31 - 1) 0 digits with
    | (n, []) =>
      Scaled.toNumber ⟨s.significand, if down then s.exponent - n else s.exponent + n⟩ negative rest
    | (_, _ :: dropped) =>
      if s.significand ≠ 0 ∧ down = false then fault .numberOutOfRange (dropped ++ rest)
      else .ok (signed negative 0, rest)

/-- The exponent, if there is one, and with it the number. -/
def power (s : Scaled) (negative : Bool) : Reader Number
  | 'e' :: cs | 'E' :: cs =>
    let (down, cs) := Text.splitSign cs
    exponentDigits s negative down cs
  | cs => s.toNumber negative cs

/-- A number without fraction and exponent. -/
def wholeNumber (negative : Bool) (m : Nat) : Number :=
  if negative = false then .integer m
  else if 0 < m ∧ m ≤ Nat.pow 2 63 then .integer (-m)
  else signed true (UInt64.ofNat m).toFloat

def startsFraction : List Char → Bool
  | '.' :: _ | 'e' :: _ | 'E' :: _ => true
  | _ => false

/-- A number after its minus sign.  Digits that do not fit into `2 ^ 64` make the exponent greater
by one each. -/
def numeral (negative : Bool) : Reader Number := fun cs =>
  match cs.takeWhile Char.isDigit, cs.dropWhile Char.isDigit with
  | [], [] => fault .eofInValue []
  | [], rest => faultPast .invalidNumber rest
  | '0' :: d :: digits, rest => faultPast .invalidNumber (d :: digits ++ rest)
  | digits, rest =>
    let (m, extra) := gather (Nat.pow 2 64 - 1) 0 digits
    if extra.isEmpty ∧ startsFraction rest = false then .ok (wholeNumber negative m, rest)
    else
      match fraction ⟨m, extra.length⟩ rest with
      | .error f => .error f
      | .ok (s, rest) => power s negative rest

end Json
end AccountingPage
