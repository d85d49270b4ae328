import AccountingPage.Text.Blank
import AccountingPage.Text.Numeral

/-!
# Amounts

Amounts are whole rupiah below `2 ^ 64`.  A person types and reads them with the digits grouped in
threes by a point (`1.500.000`); attributes and form entries are read the way a leading integer is.

* `digitsOf`, `groupThousands` go between a typed text and its digits.
* `Amount.parse` and `Amount.format` go between amounts and texts; zero is the empty text.
* `leadingInt?` reads sign and digits at the front of a text, `Amount.leading` an amount there.
-/

set_option autoImplicit false

namespace AccountingPage

abbrev Amount := UInt64

/-- A number that is small enough to be an amount. -/
def Amount.ofNat? (n : Nat) : Option Amount := if n < Nat.pow 2 64 then some (UInt64.ofNat n) else none

theorem Amount.ofNat?_eq_some_iff {n : Nat} {a : Amount} :
    Amount.ofNat? n = some a ↔ n = a.toNat := by
  rw [Amount.ofNat?]
  constructor
  · intro h
    split at h
    case isTrue hn =>
      cases h
      rw [UInt64.toNat_ofNat', Nat.mod_eq_of_lt hn]
    case isFalse => exact absurd h (by simp)
  · rintro rfl
    rw [if_pos a.toNat_lt, UInt64.ofNat_toNat]

/-! ## Digits -/

def digitsOf (raw : String) : String := String.ofList (raw.toList.filter Char.isDigit)

/-- The amount that a text's digits spell, whatever else it holds; `none` if there are no digits or
the number is too large. -/
def Amount.ofDigits? (digits : String) : Option Amount :=
  if digits.toList.isEmpty then none else Amount.ofNat? (Text.decimalValue digits.toList)

/-- A point goes before a character if a multiple of three bytes is left from there on.  For a run
of digits that puts the points between the groups of thousands. -/
def groupThousands (digits : String) : String :=
  String.ofList <| digits.toList.zipIdx.flatMap fun (c, i) =>
    if 0 < i ∧ (digits.utf8ByteSize - i) % 3 = 0 then ['.', c] else [c]

/-! ## Typed amounts -/

/-- Everything but the digits is dropped first.  No digits, or too many, is zero. -/
def Amount.parse (raw : String) : Amount := (Amount.ofDigits? (digitsOf raw)).getD 0

/-- Zero shows as an empty field. -/
def Amount.format (a : Amount) : String :=
  if a = 0 then "" else groupThousands (String.ofList (Nat.toDigits 10 a.toNat))

/-! ## Leading integers -/

/-- Blanks, at most one sign, then digits; what follows the digits is left alone.  There must be a
digit, and the digits must not exceed `2 ^ 63 - 1`. -/
def leadingInt? (raw : String) : Option Int :=
  let (negative, cs) := Text.splitSign (Text.trimStart raw)
  let digits := cs.takeWhile Char.isDigit
  let magnitude := Text.decimalValue digits
  if digits.isEmpty ∨ Nat.pow 2 63 ≤ magnitude then none
  else some (if negative then -(magnitude : Int) else magnitude)

/-- A text without a leading integer, or with a negative one, is zero. -/
def Amount.leading (raw : String) : Amount :=
  match leadingInt? raw with
  | some n => UInt64.ofNat n.toNat
  | none => 0

end AccountingPage
